import Ownership.Proofs.LineFormat.Imports

/-!
# Reading what was written

Every text is read into tables that can be written, whatever it holds, and what is written for them is
read into the same flag and the same sets.  The imports come back as well if each of them can be read
from its own line and, below a folder that does not break lines, only then.
-/

namespace Ownership
namespace LineFormat

variable {folder text : String} {gathered : Gathered} {remarks : List Remark} {number : Nat}
  {raw letters owners : List Char} {globs emails : List String} {set : OwnerSet}
  {sets : List OwnerSet} {key : ConfigKey}

/-!
# Reading gathers what can be written
-/

/-- What reading below a folder can have gathered. -/
structure Readable (folder : String) (gathered : Gathered) : Prop where
  tables : gathered.Sound
  imports : ∀ imp ∈ gathered.imports, ReadBelow folder imp
  distinct : gathered.imports.Nodup

theorem readable_skip {reason : SkipReason} (h : Readable folder gathered) :
    Readable folder (gathered.skip number text reason) where
  tables := h.tables.congr rfl rfl
  imports := h.imports
  distinct := h.distinct

theorem Readable.put (h : Readable folder gathered) (hset : WritableSet set) :
    Readable folder (gathered.put set) where
  tables := h.tables.put hset
  imports := by
    rw [put_imports]
    exact h.imports
  distinct := by
    rw [put_imports]
    exact h.distinct

theorem writableSet_of_row (hrow : WritableRow globs) (overrides : Bool) :
    WritableSet { globs, overrides } where
  row _ := hrow
  alone hnil := absurd hnil hrow.nonempty
  inList _ ref href := by cases href
  remarks ref href := by cases href

theorem readable_addBlockOwners (hrow : WritableRow globs)
    (hremarks : ∀ remark ∈ remarks, WritableRemark remark)
    (hfree : ∀ email ∈ emails, ∀ c ∈ email.toList, c ≠ '#' ∧ c ≠ ',')
    (h : Readable folder gathered) :
    Readable folder (gathered.addBlockOwners number text globs remarks emails) := by
  unfold Gathered.addBlockOwners
  induction emails generalizing gathered with
  | nil => exact h
  | cons email emails ih =>
      rw [List.foldl_cons]
      apply ih fun other hother => hfree other (List.mem_cons_of_mem email hother)
      split
      · rename_i howner
        have hset : WritableSet (single globs { email, remarks }) := by
          refine ⟨fun _ => hrow, fun hnil => absurd hnil hrow.nonempty, ?_, ?_⟩
          · intro _ ref href
            rw [List.mem_singleton.mp href]
            exact ⟨howner, hfree email List.mem_cons_self⟩
          · intro ref href
            rw [List.mem_singleton.mp href]
            exact hremarks
        have hput := h.put hset
        rw [put_row hrow.nonempty] at hput
        unfold single at hput
        dsimp only at hput
        rw [Bool.or_false] at hput
        exact hput
      · exact readable_skip h

theorem writableRow_of_read
    (hletters : Text.sortedDistinct ((commaPieces letters).filter fun glob => !glob.isEmpty) = globs)
    (hfree : ∀ c ∈ letters, c ≠ '#' ∧ c ≠ '=' ∧ Text.isLineBoundary c = false) (hne : globs ≠ [])
    (hvalid : ∀ glob ∈ globs, Glob.isValid glob = true) : WritableRow globs := by
  refine ⟨hne, ?_, ?_⟩
  · rw [← hletters, Text.sortedDistinct_sortedDistinct]
  · intro glob hglob
    have hpiece : glob ∈ (commaPieces letters).filter fun glob => !glob.isEmpty := by
      rw [← hletters] at hglob
      exact Text.mem_sortedDistinct.mp hglob
    rw [List.mem_filter, Bool.not_eq_true'] at hpiece
    have hform := mem_commaPieces hpiece.1
    refine ⟨?_, hform.1, ?_, hvalid glob hglob⟩
    · intro hempty
      rw [hempty] at hpiece
      cases hpiece.2
    · intro c hc
      have hin := hform.2 c hc
      have hplain := hfree c hin.2
      exact ⟨hplain.1, hin.1, hplain.2.1, hplain.2.2⟩

theorem readable_addPerFile (h : Readable folder gathered)
    (hremarks : ∀ remark ∈ remarks, WritableRemark remark)
    (hletters : ∀ c ∈ letters, c ≠ '#' ∧ c ≠ '=' ∧ Text.isLineBoundary c = false)
    (howners : ∀ c ∈ owners, c ≠ '#') :
    Readable folder (gathered.addPerFile number text remarks letters owners) := by
  cases hglobs : Text.sortedDistinct ((commaPieces letters).filter fun glob => !glob.isEmpty) with
  | nil =>
      unfold Gathered.addPerFile
      rw [hglobs]
      exact readable_skip h
  | cons first others =>
      cases hfind : (first :: others).find? fun glob => !Glob.isValid glob with
      | some glob =>
          unfold Gathered.addPerFile
          rw [hglobs]
          dsimp only
          rw [hfind]
          exact readable_skip h
      | none =>
          have hvalid : ∀ glob ∈ first :: others, Glob.isValid glob = true := by
            intro glob hglob
            simpa using List.find?_eq_none.mp hfind glob hglob
          have hne : first :: others ≠ [] := List.cons_ne_nil first others
          have hrow := writableRow_of_read hglobs hletters hne hvalid
          rw [addPerFile_of_row hglobs hne hvalid]
          split
          · exact h.put (writableSet_of_row hrow true)
          · apply readable_addBlockOwners hrow hremarks ?_ (h.put (writableSet_of_row hrow false))
            intro email hemail c hc
            have hin := (mem_commaPieces hemail).2 c hc
            exact ⟨howners c hin.2, hin.1⟩

theorem readable_addLine (h : Readable folder gathered)
    (hline : ∀ c ∈ raw, Text.isLineBoundary c = false) :
    Readable folder (Gathered.addLine folder gathered (raw, number)) := by
  have hremarks : ∀ remark ∈ (content raw).2, WritableRemark remark :=
    fun remark hremark => writable_of_splitRemarks hline hremark
  have hcontent : ∀ c ∈ (content raw).1, c ≠ '#' ∧ Text.isLineBoundary c = false := by
    intro c hc
    have hmem := mem_content hc
    refine ⟨hmem.1, ?_⟩
    rcases hmem.2 with hin | rfl
    · exact hline c hin
    · decide
  unfold Gathered.addLine
  dsimp only
  cases hstatement : readStatement (content raw).1 with
  | nothing => exact h
  | noParent => exact ⟨h.tables.congr rfl rfl, h.imports, h.distinct⟩
  | unrecognized => exact readable_skip h
  | owner email =>
      have halone : StandsAlone (String.ofList email) :=
        standsAlone_of_read (fun hmem => (hcontent _ hmem).1 rfl) hstatement
      exact ⟨⟨h.tables.owners.addOwner halone hremarks, h.tables.rows, h.tables.blocks⟩,
        h.imports, h.distinct⟩
  | perFile letters owners =>
      have hread := readPerFile?_eq_some (readStatement_perFile_eq hstatement)
      apply readable_addPerFile h hremarks
      · intro c hc
        have hin := hcontent c (hread.2.1 c hc)
        exact ⟨hin.1, fun heq => hread.1 (heq ▸ hc), hin.2⟩
      · intro c hc
        exact (hcontent c (hread.2.2 c hc)).1
  | importing scope target =>
      have hread := readImport?_eq_some (readStatement_importing hstatement)
      have hfree : ∀ c ∈ target, Text.isBlank c = false ∧ c ≠ '#' := by
        intro c hc
        exact ⟨(hread.2 c hc).1, (hcontent c (hread.2 c hc).2).1⟩
      dsimp only
      cases htarget : readTarget folder scope target with
      | error reason => exact readable_skip h
      | ok imp =>
          dsimp only
          split
          · exact h
          · rename_i hnew
            refine ⟨h.tables.congr rfl rfl, ?_, ?_⟩
            · intro other hother
              rcases List.mem_append.mp hother with hold | hsame
              · exact h.imports other hold
              · rw [List.mem_singleton.mp hsame]
                exact readTarget_eq_ok hfree htarget
            · rw [← List.concat_eq_append]
              exact h.distinct.concat hnew

/-- Every text is read into something that can be written. -/
theorem readable_gather (folder : String) (text : List Char) :
    Readable folder (gather folder text) := by
  have hrun : ∀ (lines : List (List Char)) (number : Nat) (gathered : Gathered),
      (∀ line ∈ lines, ∀ c ∈ line, Text.isLineBoundary c = false) → Readable folder gathered →
        Readable folder ((lines.zipIdx number).foldl (Gathered.addLine folder) gathered) := by
    intro lines
    induction lines with
    | nil =>
        intro number gathered _ h
        exact h
    | cons line lines ih =>
        intro number gathered hlines h
        rw [List.zipIdx_cons, List.foldl_cons]
        apply ih _ _ fun other hother => hlines other (List.mem_cons_of_mem line hother)
        exact readable_addLine h (hlines line List.mem_cons_self)
  apply hrun
  · intro line hline c hc
    exact Text.not_isLineBoundary_of_mem_splitLines hline hc
  · refine ⟨sound_of_empty rfl rfl, ?_, List.nodup_nil⟩
    intro imp himp
    cases himp

/-!
# Writing gathers the sets
-/

def sortedRow (set : OwnerSet) : OwnerSet := { set with globs := Text.sortedDistinct set.globs }

def gatheredFrom (config : OwnerConfig) : Gathered :=
  (config.sets.map sortedRow).foldl Gathered.put
    { ignoresParents := config.ignoresParents, imports := config.imports }

theorem addSet_eq_put (h : set.globs = [] → set.overrides = false) :
    addSet gathered set = .ok (gathered.put (sortedRow set)) := by
  unfold addSet OwnerSet.isGlobal
  dsimp only
  by_cases hglobal : set.globs = []
  · have hrow : (sortedRow set).globs = [] := Text.sortedDistinct_eq_nil.mpr hglobal
    rw [List.isEmpty_iff.mpr hglobal, if_pos rfl, h hglobal, if_neg Bool.false_ne_true,
      put_global hrow]
    rfl
  · have hrow : (sortedRow set).globs ≠ [] := fun hnil =>
      hglobal (Text.sortedDistinct_eq_nil.mp hnil)
    rw [List.isEmpty_eq_false_iff.mpr hglobal, if_neg Bool.false_ne_true, put_row hrow]
    rfl

theorem foldlM_addSet (h : ∀ set ∈ sets, set.globs = [] → set.overrides = false) :
    sets.foldlM addSet gathered = .ok ((sets.map sortedRow).foldl Gathered.put gathered) := by
  induction sets generalizing gathered with
  | nil => rfl
  | cons set sets ih =>
      rw [List.foldlM_cons, addSet_eq_put (h set List.mem_cons_self)]
      exact ih fun other hother => h other (List.mem_cons_of_mem set hother)

def writtenText (gathered : Gathered) : String :=
  String.ofList (Text.unlines (gathered.lines.map String.toList))

theorem write_eq_ok {config : OwnerConfig}
    (h : ∀ set ∈ config.sets, set.globs = [] → set.overrides = false) :
    write config = .ok (writtenText (gatheredFrom config)) := by
  unfold write
  dsimp only
  rw [foldlM_addSet h]
  rfl

theorem gatheredFrom_ignoresParents (config : OwnerConfig) :
    (gatheredFrom config).ignoresParents = config.ignoresParents :=
  putAll_ignoresParents _ _

theorem gatheredFrom_imports (config : OwnerConfig) :
    (gatheredFrom config).imports = config.imports :=
  putAll_imports _ _

/-!
# Reading the lines back
-/

theorem addLine_noParent :
    Gathered.addLine folder gathered (noParentWords.toList, number) =
      { gathered with ignoresParents := true } := by
  have hcontent : content noParentWords.toList = (noParentWords.toList, []) :=
    content_plain (by decide) (by decide)
  unfold Gathered.addLine
  dsimp only
  rw [hcontent]
  dsimp only
  rw [readStatement_noParent]

theorem gather_lines (h : gathered.Sound)
    (himports : ∀ imp ∈ gathered.imports, ReadBelow folder imp ∧ OnOneLine imp.path) :
    gather folder (writtenText gathered).toList =
      (gathered.sets.map writtenOrder.arrangedSet).foldl Gathered.put
        (((((sortedImports gathered.imports).map renderImport).map String.toList).zipIdx
          (1 + (if gathered.ignoresParents then [noParentWords] else []).length)).foldl
            (Gathered.addLine folder) { ignoresParents := gathered.ignoresParents }) := by
  have hsays : Says folder gathered.tableLines (gathered.sets.map writtenOrder.arrangedSet) :=
    says_tableLines h
  have hlines : ∀ line ∈ gathered.lines.map String.toList, ∀ c ∈ line,
      Text.isLineBoundary c = false := by
    intro line hline
    rcases List.mem_map.mp hline with ⟨written, hwritten, rfl⟩
    rw [lines_eq, List.mem_append, List.mem_append] at hwritten
    rcases hwritten with (hflag | himport) | htable
    · rw [List.mem_ite_nil_right, List.mem_singleton] at hflag
      rw [hflag.2]
      exact Text.forall_mem_of_all (by decide)
    · rcases List.mem_map.mp himport with ⟨imp, himp, rfl⟩
      have hread := himports imp (List.mem_mergeSort.mp himp)
      exact onOneLine_import hread.1 hread.2
    · exact hsays.apart written htable
  have hflag : (((if gathered.ignoresParents then [noParentWords] else []).map String.toList).zipIdx
      1).foldl (Gathered.addLine folder) {} = { ignoresParents := gathered.ignoresParents } := by
    cases gathered.ignoresParents with
    | false => rfl
    | true => exact addLine_noParent
  unfold gather writtenText
  rw [String.toList_ofList, Text.splitLines_unlines hlines, lines_eq, List.map_append,
    List.map_append, List.zipIdx_append, List.zipIdx_append, List.foldl_append, List.foldl_append,
    hflag, hsays.puts, List.length_map]

/-- The flag and the sets come back, whatever becomes of the imports. -/
theorem gather_written (h : gathered.Sound)
    (himports : ∀ imp ∈ gathered.imports, ReadBelow folder imp ∧ OnOneLine imp.path) :
    (gather folder (writtenText gathered).toList).ignoresParents =
        gathered.ignoresParents ∧
      (gather folder (writtenText gathered).toList).sets = gathered.sets := by
  have hread : ∀ imp ∈ sortedImports gathered.imports, ReadBelow folder imp := by
    intro imp himp
    exact (himports imp (List.mem_mergeSort.mp himp)).1
  rw [gather_lines h himports]
  constructor
  · rw [putAll_ignoresParents]
    rcases addLines_renderImport hread with ⟨found, skipped, hlines, _⟩
    rw [hlines]
  · rcases addLines_renderImport hread with ⟨found, skipped, hlines, _⟩
    rw [hlines]
    exact sets_putAll h rfl rfl

theorem imports_gather_written (h : gathered.Sound)
    (himports : ∀ imp ∈ gathered.imports, ReadBelow folder imp ∧ Restorable imp)
    (hdistinct : gathered.imports.Nodup) :
    (gather folder (writtenText gathered).toList).imports =
      sortedImports gathered.imports := by
  have hread : ∀ imp ∈ sortedImports gathered.imports, ReadBelow folder imp ∧ Restorable imp :=
    fun imp himp => himports imp (List.mem_mergeSort.mp himp)
  have hsorted : (sortedImports gathered.imports).Nodup :=
    (List.mergeSort_perm gathered.imports _).nodup_iff.mpr hdistinct
  have honeLine : ∀ imp ∈ gathered.imports, ReadBelow folder imp ∧ OnOneLine imp.path := by
    intro imp himp
    refine ⟨(himports imp himp).1, ?_⟩
    exact onOneLine_of_no_blank fun c hc => ((himports imp himp).2.path c hc).1
  rw [gather_lines h honeLine, putAll_imports,
    addLines_restorable (fun imp himp => (hread imp himp).1) (fun imp himp => (hread imp himp).2)
      (by exact hsorted)]
  rfl

/-- Imports that come back from the text can be read from their lines. -/
theorem restorable_of_gather_written (h : gathered.Sound)
    (himports : ∀ imp ∈ gathered.imports, ReadBelow folder imp ∧ OnOneLine imp.path)
    (hback : sortedImports (gather folder (writtenText gathered).toList).imports =
      sortedImports gathered.imports) :
    ∀ imp ∈ gathered.imports, Restorable imp := by
  apply restorable_of_read_back fun imp himp => (himports imp himp).1
  intro imp himp
  have hread : ∀ other ∈ sortedImports gathered.imports, ReadBelow folder other :=
    fun other hother => (himports other (List.mem_mergeSort.mp hother)).1
  have hmem : imp ∈ (gather folder (writtenText gathered).toList).imports := by
    apply List.mem_mergeSort.mp
    change imp ∈ sortedImports _
    rw [hback]
    exact List.mem_mergeSort.mpr himp
  rw [gather_lines h himports, putAll_imports] at hmem
  rcases addLines_renderImport hread with ⟨found, skipped, hlines, hfound⟩
  rw [hlines] at hmem
  rcases hfound imp hmem with hnone | ⟨source, hsource, hline⟩
  · cases hnone
  · exact ⟨source, List.mem_mergeSort.mp hsource, hline⟩

/-!
# Configurations that were read
-/

theorem globs_of_mem_sets (h : gathered.Sound) (hset : set ∈ gathered.sets) :
    (set.globs = [] → set.overrides = false) ∧ sortedRow set = set := by
  rw [sets_eq, List.mem_append] at hset
  rcases hset with hglobal | hrow
  · split at hglobal
    · cases hglobal
    · rw [List.mem_singleton.mp hglobal]
      refine ⟨fun _ => rfl, ?_⟩
      unfold sortedRow
      rw [Text.sortedDistinct_eq_nil.mpr rfl]
  · rcases List.mem_map.mp hrow with ⟨entry, hentry, rfl⟩
    have hwritable := (h.blocks entry (mem_tellingRows.mp hentry).1).1
    refine ⟨fun hnil => absurd hnil hwritable.nonempty, ?_⟩
    unfold sortedRow blockSet
    dsimp only
    rw [hwritable.sorted]

theorem gatheredFrom_toConfig (key : ConfigKey) (h : gathered.Sound) :
    (gatheredFrom (gathered.toConfig key)).Sound ∧
      (gatheredFrom (gathered.toConfig key)).sets = gathered.sets := by
  have hsame : (gathered.toConfig key).sets.map sortedRow = gathered.sets := by
    apply (List.map_congr_left ?_).trans (List.map_id gathered.sets)
    intro set hset
    exact (globs_of_mem_sets h hset).2
  unfold gatheredFrom
  rw [hsame]
  constructor
  · apply Gathered.Sound.putAll (sound_of_empty rfl rfl)
    intro set hset
    exact writableSet_of_mem_sets h hset
  · -- the owners are put in as they are listed
    let asListed : Arrangement := ⟨fun _ refs => refs, fun _ refs => List.Perm.refl refs⟩
    have hlisted : gathered.sets.map asListed.arrangedSet = gathered.sets := List.map_id _
    have hput : ∀ start : Gathered, start.owners = {} → start.blocks = {} →
        ((gathered.sets.map asListed.arrangedSet).foldl Gathered.put start).sets = gathered.sets :=
      fun _ => sets_putAll h
    rw [hlisted] at hput
    exact hput _ rfl rfl

theorem write_toConfig (key : ConfigKey) (h : gathered.Sound) :
    write (gathered.toConfig key) = .ok (writtenText (gatheredFrom (gathered.toConfig key))) := by
  apply write_eq_ok
  intro set hset
  exact (globs_of_mem_sets h hset).1

theorem toConfig_ignoresParents (key : ConfigKey) (gathered : Gathered) :
    (gathered.toConfig key).ignoresParents = gathered.ignoresParents := rfl

theorem toConfig_sets (key : ConfigKey) (gathered : Gathered) :
    (gathered.toConfig key).sets = gathered.sets := rfl

theorem toConfig_imports (key : ConfigKey) (gathered : Gathered) :
    (gathered.toConfig key).imports = sortedImports gathered.imports := rfl

theorem toConfig_congr {other : Gathered} (key : ConfigKey)
    (hflag : other.ignoresParents = gathered.ignoresParents) (hsets : other.sets = gathered.sets)
    (himports : sortedImports other.imports = sortedImports gathered.imports) :
    other.toConfig key = gathered.toConfig key := by
  unfold Gathered.toConfig
  rw [hflag, hsets, himports]

theorem read_config (key : ConfigKey) (text : String) :
    (read key text).1 = (gather key.folder text.toList).toConfig key := rfl

/-- A configuration that was read can be written, and what is written has the same flag and the same
sets, with the owners, their order and their remarks, when it is read with the same key.  Paths of
imports come from the folder of the key, so this must not break lines. -/
theorem sets_of_written (key : ConfigKey) (text : String) (hfolder : OnOneLine key.folder) :
    ∃ once, write (read key text).1 = .ok once ∧
      (read key once).1.ignoresParents = (read key text).1.ignoresParents ∧
        (read key once).1.sets = (read key text).1.sets := by
  have hreadable := readable_gather key.folder text.toList
  rw [read_config]
  generalize gather key.folder text.toList = gathered at *
  have hwritten := gatheredFrom_toConfig key hreadable.tables
  have himports : ∀ imp ∈ (gatheredFrom (gathered.toConfig key)).imports,
      ReadBelow key.folder imp ∧ OnOneLine imp.path := by
    intro imp himp
    rw [gatheredFrom_imports] at himp
    have hread := hreadable.imports imp (List.mem_mergeSort.mp himp)
    exact ⟨hread, hread.oneLine hfolder⟩
  have hagain := gather_written hwritten.1 himports
  refine ⟨_, write_toConfig key hreadable.tables, ?_⟩
  rw [read_config, toConfig_ignoresParents, toConfig_sets, toConfig_sets, hagain.1, hagain.2]
  constructor
  · exact gatheredFrom_ignoresParents _
  · exact hwritten.2

def docsKey : ConfigKey := { project := "village", branch := "main", folder := "/docs" }

/-- Owners of all files and of some, a remark with signs of the format, and an import below the
folder. -/
def docsText : String :=
  "bob@village # the author\nann@village #{NOTE:a#b=c,d}\ninclude api/OWNERS\n" ++
    "per-file *.md , *.txt = ann@village, *\nper-file *.md=set noparent\n"

theorem docs_sets_of_written : OnOneLine docsKey.folder ∧
    ∃ once, write (read docsKey docsText).1 = .ok once ∧
      (read docsKey once).1.ignoresParents = (read docsKey docsText).1.ignoresParents ∧
        (read docsKey once).1.sets = (read docsKey docsText).1.sets := by
  have hfolder : OnOneLine docsKey.folder := Text.forall_mem_of_all (by decide)
  exact ⟨hfolder, sets_of_written docsKey docsText hfolder⟩

/-!
# Configurations with nothing but imports
-/

theorem read_of_imports {imports : List Import}
    (hgather : gather key.folder text.toList = { imports })
    (hsorted : sortedImports imports = imports) : (read key text).1 = { key, imports } := by
  have hsets : ({ imports } : Gathered).sets = [] := by simp [Gathered.sets, sortedBlocks]
  rw [read_config, hgather]
  unfold Gathered.toConfig
  rw [hsets, hsorted]

theorem write_of_imports (key : ConfigKey) {imports : List Import}
    (hsorted : sortedImports imports = imports) :
    write { key, imports } =
      .ok (String.ofList (Text.unlines ((imports.map renderImport).map String.toList))) := by
  have hlines : ({ imports } : Gathered).lines = imports.map renderImport := by
    simp [Gathered.lines, sortedBlocks, sortedOwners, hsorted]
  rw [write_eq_ok fun set hset => by cases hset]
  unfold writtenText
  rw [← hlines]
  rfl

def villageKey : ConfigKey := { project := "village", branch := "main" }

def ownOwners : Import := { path := "/x" }

def toolsOwners : Import := { project := some "tools", branch := some "stable", path := "/x" }

def branchOwners : Import := { branch := some "stable", path := "/x" }

theorem imports_ownOwners : Imports "/" "include /x".toList ownOwners := by
  refine ⟨.everything, "/x".toList, ?_, by decide +kernel⟩
  rw [content_plain (by decide) (by decide)]
  decide +kernel

theorem imports_toolsOwners : Imports "/" "include tools:stable:/x".toList toolsOwners := by
  refine ⟨.everything, "tools:stable:/x".toList, ?_, by decide +kernel⟩
  rw [content_plain (by decide) (by decide)]
  decide +kernel

theorem imports_branchOwners : Imports "/" "include :stable:/x".toList branchOwners := by
  refine ⟨.everything, ":stable:/x".toList, ?_, by decide +kernel⟩
  rw [content_plain (by decide) (by decide)]
  decide +kernel

theorem gather_two {first second : List Char} {one other : Import}
    (hlines : Text.splitLines text.toList = [first, second]) (hfirst : Imports folder first one)
    (hsecond : Imports folder second other) :
    gather folder text.toList =
      if other ∈ [one] then { imports := [one] } else { imports := [one, other] } := by
  unfold gather
  rw [hlines, List.zipIdx_cons, List.zipIdx_cons, List.foldl_cons, List.foldl_cons,
    addLine_of_imports hfirst, addLine_of_imports hsecond]
  rfl

/-!
# Canonical texts
-/

/-- Where every import can be read from its own line, the written text is canonical: the imports come
back, and writing again gives the same text.  Below a folder that does not break lines they come back
in no other case. -/
theorem written_is_canonical (key : ConfigKey) (text : String) :
    ∃ once, write (read key text).1 = .ok once ∧
      ((∀ imp ∈ (read key text).1.imports, Restorable imp) →
        (read key once).1.imports = (read key text).1.imports ∧
          write (read key once).1 = .ok once) ∧
      (OnOneLine key.folder → (read key once).1.imports = (read key text).1.imports →
        ∀ imp ∈ (read key text).1.imports, Restorable imp) := by
  have hreadable := readable_gather key.folder text.toList
  rw [read_config]
  generalize gather key.folder text.toList = gathered at *
  have hwritten := gatheredFrom_toConfig key hreadable.tables
  have hbelow : ∀ imp ∈ (gathered.toConfig key).imports, ReadBelow key.folder imp :=
    fun imp himp => hreadable.imports imp (List.mem_mergeSort.mp himp)
  -- the imports are in order already, so sorting them again changes nothing
  have hsorted : sortedImports (gathered.toConfig key).imports = (gathered.toConfig key).imports :=
    Text.sortedBy_sortedBy renderImport _
  refine ⟨_, write_toConfig key hreadable.tables, ?_, ?_⟩
  · intro himports
    have hrestorable : ∀ imp ∈ (gatheredFrom (gathered.toConfig key)).imports,
        ReadBelow key.folder imp ∧ Restorable imp := by
      intro imp himp
      rw [gatheredFrom_imports] at himp
      exact ⟨hbelow imp himp, himports imp himp⟩
    have hagain := gather_written hwritten.1 fun imp himp =>
      ⟨(hrestorable imp himp).1,
        onOneLine_of_no_blank fun c hc => ((hrestorable imp himp).2.path c hc).1⟩
    have hdistinct : (gatheredFrom (gathered.toConfig key)).imports.Nodup := by
      rw [gatheredFrom_imports]
      exact (List.mergeSort_perm _ _).nodup_iff.mpr hreadable.distinct
    have himportsAgain := imports_gather_written hwritten.1 hrestorable hdistinct
    have hsame : (read key (writtenText (gatheredFrom (gathered.toConfig key)))).1 =
        gathered.toConfig key := by
      rw [read_config]
      apply toConfig_congr key
      · rw [hagain.1, gatheredFrom_ignoresParents, toConfig_ignoresParents]
      · rw [hagain.2, hwritten.2]
      · rw [himportsAgain, gatheredFrom_imports, hsorted]
        exact hsorted
    rw [hsame]
    exact ⟨rfl, write_toConfig key hreadable.tables⟩
  · intro hfolder hback
    have honeLine : ∀ imp ∈ (gatheredFrom (gathered.toConfig key)).imports,
        ReadBelow key.folder imp ∧ OnOneLine imp.path := by
      intro imp himp
      rw [gatheredFrom_imports] at himp
      exact ⟨hbelow imp himp, (hbelow imp himp).oneLine hfolder⟩
    rw [← gatheredFrom_imports (gathered.toConfig key)]
    apply restorable_of_gather_written hwritten.1 honeLine
    rw [gatheredFrom_imports, hsorted, ← hback, read_config, toConfig_imports]

theorem village_is_canonical :
    (read villageKey "include /x\ninclude tools:stable:/x\n").1.imports =
        [ownOwners, toolsOwners] ∧
      ∃ once, write (read villageKey "include /x\ninclude tools:stable:/x\n").1 = .ok once ∧
        (read villageKey once).1.imports =
            (read villageKey "include /x\ninclude tools:stable:/x\n").1.imports ∧
          write (read villageKey once).1 = .ok once := by
  have hread : (read villageKey "include /x\ninclude tools:stable:/x\n").1 =
      { key := villageKey, imports := [ownOwners, toolsOwners] } :=
    read_of_imports (gather_two (by decide +kernel) imports_ownOwners imports_toolsOwners)
      (Text.sortedBy_of_pairwise (by decide +kernel))
  have hplain : ∀ imp ∈ [ownOwners, toolsOwners], Restorable imp := by
    intro imp himp
    rcases List.mem_pair.mp himp with rfl | rfl
    · exact ⟨fun _ => rfl, Text.forall_mem_of_all (by decide)⟩
    · refine ⟨?_, Text.forall_mem_of_all (by decide)⟩
      intro hnone
      cases hnone
  rcases written_is_canonical villageKey "include /x\ninclude tools:stable:/x\n" with
    ⟨once, hwrite, hback, -⟩
  refine ⟨by rw [hread], once, hwrite, hback ?_⟩
  rw [hread]
  exact hplain

/-- A branch without a project is not written: the import becomes one of the own branch, and where
that is imported as well, the text that is written next is shorter. -/
theorem branch_is_not_written :
    ∃ once, write (read villageKey "include :stable:/x\ninclude /x\n").1 = .ok once ∧
      (read villageKey once).1.imports ≠
          (read villageKey "include :stable:/x\ninclude /x\n").1.imports ∧
        write (read villageKey once).1 ≠ .ok once := by
  have hread : (read villageKey "include :stable:/x\ninclude /x\n").1 =
      { key := villageKey, imports := [branchOwners, ownOwners] } :=
    read_of_imports (gather_two (by decide +kernel) imports_branchOwners imports_ownOwners)
      (Text.sortedBy_of_pairwise (by decide +kernel))
  have hagain : (read villageKey "include /x\ninclude /x\n").1 =
      { key := villageKey, imports := [ownOwners] } :=
    read_of_imports (gather_two (by decide +kernel) imports_ownOwners imports_ownOwners)
      (Text.sortedBy_of_pairwise (by decide +kernel))
  refine ⟨"include /x\ninclude /x\n", ?_, ?_, ?_⟩
  · rw [hread, write_of_imports villageKey (Text.sortedBy_of_pairwise (by decide +kernel))]
    decide +kernel
  · rw [hread, hagain]
    decide
  · rw [hagain, write_of_imports villageKey (Text.sortedBy_of_pairwise (by decide +kernel))]
    decide +kernel

end LineFormat
end Ownership
