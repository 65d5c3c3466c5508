import Ownership.Proofs.LineFormat.Rereading
import Ownership.Proofs.Path.NormalForms

/-!
# Imports that are written and read

The line of an import holds its scope, its place and its path.  Reading it again never touches the
owners.  It finds the same import if a project stands in front of a branch and the path, which may
come from the folder of the configuration, holds nothing that a line gives another meaning.
-/

namespace Ownership
namespace LineFormat

variable {folder name : String} {scope : ImportScope} {imp : Import} {imports : List Import}
  {project branch : Option String} {target path : List Char} {gathered : Gathered} {number : Nat}
  {c : Char}

/-!
# Imports that were read
-/

/-- A project or a branch that can stand in front of a colon. -/
structure WritableName (name : String) : Prop where
  nonempty : name ≠ ""
  free : ∀ c ∈ name.toList, Text.isBlank c = false ∧ c ≠ '#' ∧ c ≠ ':'

/-- An import as it is read below a folder. -/
structure ReadBelow (folder : String) (imp : Import) : Prop where
  project : ∀ name ∈ imp.project, WritableName name
  branch : ∀ name ∈ imp.branch, WritableName name
  normal : Path.IsNormal imp.path.toList
  oneLine : OnOneLine folder → OnOneLine imp.path

/-- The import of a path that is taken below the folder unless it is absolute. -/
def resolveImport (folder : String) (scope : ImportScope) (project branch : Option String)
    (path : List Char) : Except PathError Import := do
  let path := String.ofList path
  let absolute ← if path.toList.head? = some '/' then pure path else Path.join folder path
  Import.create project branch absolute scope

def nameOf? (letters : List Char) : Option String := Text.nonempty? (some (String.ofList letters))

theorem readTarget_eq (folder : String) (scope : ImportScope) (target : List Char) :
    readTarget folder scope target =
      match Text.splitOn ':' target with
      | [path] => (resolveImport folder scope none none path).mapError .importPath
      | [project, path] =>
          (resolveImport folder scope (nameOf? project) none path).mapError .importPath
      | [project, branch, path] =>
          (resolveImport folder scope (nameOf? project) (nameOf? branch) path).mapError .importPath
      | _ => .error (.importWithColons (String.ofList target)) := rfl

theorem resolveImport_of_mapError {scope : ImportScope}
    (h : (resolveImport folder scope project branch path).mapError SkipReason.importPath = .ok imp) :
    resolveImport folder scope project branch path = .ok imp := by
  cases hresolve : resolveImport folder scope project branch path with
  | error defect =>
      rw [hresolve] at h
      cases h
  | ok found =>
      rw [hresolve] at h
      cases h
      rfl

theorem create_eq_ok {path : String} (h : Import.create project branch path scope = .ok imp) :
    imp.project = project ∧ imp.branch = branch ∧ imp.scope = scope ∧
      Path.normalize path = .ok imp.path := by
  unfold Import.create at h
  cases hnormal : Path.normalize path with
  | error defect =>
      rw [hnormal] at h
      cases h
  | ok normal =>
      rw [hnormal] at h
      cases h
      exact ⟨rfl, rfl, rfl, rfl⟩

theorem resolveImport_eq_ok (h : resolveImport folder scope project branch path = .ok imp) :
    imp.project = project ∧ imp.branch = branch ∧ imp.scope = scope ∧
      Path.IsNormal imp.path.toList ∧
        ∀ c ∈ imp.path.toList, c = '/' ∨ c ∈ folder.toList ∨ c ∈ path := by
  unfold resolveImport at h
  dsimp only at h
  rw [String.toList_ofList] at h
  split at h
  · have hcreate := create_eq_ok h
    have hnormal := Path.normalize_eq_ok hcreate.2.2.2
    refine ⟨hcreate.1, hcreate.2.1, hcreate.2.2.1, hnormal.1, ?_⟩
    intro c hc
    rcases hnormal.2 c hc with hslash | hmem
    · exact .inl hslash
    · rw [String.toList_ofList] at hmem
      exact .inr (.inr hmem)
  · cases hjoin : Path.join folder (String.ofList path) with
    | error defect =>
        rw [hjoin] at h
        cases h
    | ok joined =>
        rw [hjoin] at h
        have hcreate := create_eq_ok h
        have hnormal := Path.normalize_eq_ok hcreate.2.2.2
        have hjoined := Path.join_eq_ok hjoin
        refine ⟨hcreate.1, hcreate.2.1, hcreate.2.2.1, hnormal.1, ?_⟩
        intro c hc
        rcases hnormal.2 c hc with hslash | hmem
        · exact .inl hslash
        · have hparts := hjoined.2 c hmem
          rw [String.toList_ofList] at hparts
          exact hparts

theorem writableName_of_nameOf? (hfree : ∀ c ∈ target, Text.isBlank c = false ∧ c ≠ '#')
    (hpiece : path ∈ Text.splitOn ':' target) (h : name ∈ nameOf? path) : WritableName name := by
  unfold nameOf? Text.nonempty? at h
  rw [Option.mem_def, Option.filter_eq_some_iff] at h
  rcases h with ⟨hsome, hne⟩
  cases hsome
  refine ⟨?_, ?_⟩
  · intro hempty
    rw [hempty] at hne
    cases hne
  · intro c hc
    rw [String.toList_ofList] at hc
    have hmem := Text.mem_piece hpiece hc
    exact ⟨(hfree c hmem.1).1, (hfree c hmem.1).2, hmem.2⟩

theorem readTarget_eq_ok (hfree : ∀ c ∈ target, Text.isBlank c = false ∧ c ≠ '#')
    (h : readTarget folder scope target = .ok imp) : ReadBelow folder imp := by
  have hresolved : ∀ project branch piece,
      (∀ name ∈ project, WritableName name) → (∀ name ∈ branch, WritableName name) →
        piece ∈ Text.splitOn ':' target →
          (resolveImport folder scope project branch piece).mapError SkipReason.importPath = .ok imp →
            ReadBelow folder imp := by
    intro project branch piece hproject hbranch hpiece hok
    rcases resolveImport_eq_ok (resolveImport_of_mapError hok) with ⟨rfl, rfl, -, hnormal, hmem⟩
    refine ⟨hproject, hbranch, hnormal, ?_⟩
    intro hfolder c hc
    rcases hmem c hc with rfl | hmem | hmem
    · decide
    · exact hfolder c hmem
    · have htarget := (Text.mem_piece hpiece hmem).1
      exact Text.not_isLineBoundary_of_not_isBlank (hfree c htarget).1
  have hnone : ∀ name ∈ (none : Option String), WritableName name :=
    fun name hname => by cases hname
  rw [readTarget_eq] at h
  split at h
  · rename_i piece hpieces
    exact hresolved none none piece hnone hnone (by simp [hpieces]) h
  · rename_i first piece hpieces
    refine hresolved _ none piece ?_ hnone (by simp [hpieces]) h
    intro name hname
    exact writableName_of_nameOf? hfree (by simp [hpieces]) hname
  · rename_i first second piece hpieces
    refine hresolved _ _ piece ?_ ?_ (by simp [hpieces]) h
    · intro name hname
      exact writableName_of_nameOf? hfree (by simp [hpieces]) hname
    · intro name hname
      exact writableName_of_nameOf? hfree (by simp [hpieces]) hname
  · cases h

/-!
# Lines of imports
-/

def placeText (imp : Import) : List Char :=
  match Text.nonempty? imp.project, Text.nonempty? imp.branch with
  | none, _ => []
  | some project, none => project.toList ++ [':']
  | some project, some branch => project.toList ++ ':' :: (branch.toList ++ [':'])

theorem toList_renderImport (imp : Import) :
    (renderImport imp).toList = importKeyword imp.scope ++ (placeText imp ++ imp.path.toList) := by
  unfold renderImport placeText
  dsimp only
  rw [String.toList_append, String.toList_append, List.append_assoc]
  congr 1
  · cases imp.scope with
    | everything => decide
    | globalOnly => decide
  · congr 1
    cases Text.nonempty? imp.project with
    | none => rfl
    | some project =>
        cases Text.nonempty? imp.branch with
        | none => exact String.toList_append
        | some branch => simp

theorem nonempty?_writable (h : ∀ name ∈ project, WritableName name) :
    Text.nonempty? project = project := by
  cases project with
  | none => rfl
  | some name =>
      have hne : name.isEmpty = false := by
        rw [← Bool.not_eq_true, String.isEmpty_iff]
        exact (h name rfl).nonempty
      unfold Text.nonempty?
      rw [Option.filter_some, hne]
      rfl

theorem ReadBelow.mem_placeText (h : ReadBelow folder imp) (hc : c ∈ placeText imp) :
    Text.isBlank c = false ∧ c ≠ '#' := by
  have hfree : ∀ place ∈ imp.project, c ∈ place.toList → Text.isBlank c = false ∧ c ≠ '#' := by
    intro place hplace hmem
    have hname := (h.project place hplace).free c hmem
    exact ⟨hname.1, hname.2.1⟩
  have hfreeBranch : ∀ place ∈ imp.branch, c ∈ place.toList → Text.isBlank c = false ∧ c ≠ '#' := by
    intro place hplace hmem
    have hname := (h.branch place hplace).free c hmem
    exact ⟨hname.1, hname.2.1⟩
  unfold placeText at hc
  rw [nonempty?_writable h.project, nonempty?_writable h.branch] at hc
  split at hc
  · cases hc
  · rename_i place hproject _
    rcases List.mem_append.mp hc with hmem | hcolon
    · exact hfree place hproject hmem
    · rw [List.mem_singleton.mp hcolon]
      decide
  · rename_i place second hproject hbranch
    rcases List.mem_append.mp hc with hmem | hrest
    · exact hfree place hproject hmem
    rcases List.mem_cons.mp hrest with rfl | hrest
    · decide
    rcases List.mem_append.mp hrest with hmem | hcolon
    · exact hfreeBranch second hbranch hmem
    · rw [List.mem_singleton.mp hcolon]
      decide

theorem mem_importKeyword (h : c ∈ importKeyword scope) :
    c ≠ '#' ∧ Text.isLineBoundary c = false := by
  have hall : ∀ c ∈ importKeyword scope, c ≠ '#' ∧ Text.isLineBoundary c = false := by
    cases scope with
    | everything => exact Text.forall_mem_of_all (by decide)
    | globalOnly => exact Text.forall_mem_of_all (by decide)
  exact hall c h

theorem head_importKeyword {more : List Char} :
    ∀ c ∈ (importKeyword scope ++ more).head?, Text.isBlank c = false := by
  cases scope with
  | everything =>
      intro c hc
      cases hc
      decide
  | globalOnly =>
      intro c hc
      cases hc
      decide

theorem onOneLine_import (h : ReadBelow folder imp) (hpath : OnOneLine imp.path) :
    OnOneLine (renderImport imp) := by
  intro c hc
  rw [toList_renderImport] at hc
  rcases List.mem_append.mp hc with hmem | hc
  · exact (mem_importKeyword hmem).2
  rcases List.mem_append.mp hc with hmem | hmem
  · exact Text.not_isLineBoundary_of_not_isBlank (h.mem_placeText hmem).1
  · exact hpath c hmem

def Imports (folder : String) (line : List Char) (imp : Import) : Prop :=
  ∃ scope target, readStatement (content line).1 = .importing scope target ∧
    readTarget folder scope target = .ok imp

theorem imports_unique {line : List Char} {one other : Import} (hone : Imports folder line one)
    (hother : Imports folder line other) : one = other := by
  rcases hone with ⟨scope, target, hstatement, htarget⟩
  rcases hother with ⟨otherScope, otherTarget, hsame, hread⟩
  rw [hstatement] at hsame
  cases hsame
  rw [htarget] at hread
  cases hread
  rfl

theorem addLine_of_imports {line : List Char} (h : Imports folder line imp) :
    Gathered.addLine folder gathered (line, number) =
      if imp ∈ gathered.imports then gathered
      else { gathered with imports := gathered.imports ++ [imp] } := by
  rcases h with ⟨scope, target, hstatement, htarget⟩
  unfold Gathered.addLine
  dsimp only
  rw [hstatement]
  dsimp only
  rw [htarget]

theorem content_renderImport (h : ReadBelow folder imp) :
    ∃ more, (content (renderImport imp).toList).1 =
      importKeyword imp.scope ++ (placeText imp ++ '/' :: more) := by
  rcases List.head?_eq_some_iff.mp (Path.head_of_isNormal h.normal) with ⟨rest, hpath⟩
  have hline : (renderImport imp).toList =
      importKeyword imp.scope ++ (placeText imp ++ ['/']) ++ rest := by
    rw [toList_renderImport, hpath]
    simp
  have hfree : '#' ∉ importKeyword imp.scope ++ (placeText imp ++ ['/']) := by
    intro hmem
    rcases List.mem_append.mp hmem with hkeyword | hmem
    · exact (mem_importKeyword hkeyword).1 rfl
    rcases List.mem_append.mp hmem with hplace | hslash
    · exact (h.mem_placeText hplace).2 rfl
    · revert hslash
      decide
  have htrim : Text.Trimmed (importKeyword imp.scope ++ (placeText imp ++ ['/'])) := by
    constructor
    · exact head_importKeyword
    · intro c hc
      rw [List.getLast?_append, List.getLast?_append, List.getLast?_singleton] at hc
      cases hc
      decide
  rcases content_append (t := rest) (by simp) hfree htrim with ⟨more, hmore⟩
  refine ⟨more, ?_⟩
  rw [hline, hmore]
  simp

/-- Whatever the line of an import is read as, it says nothing about owners. -/
theorem addLine_renderImport (h : ReadBelow folder imp) :
    ∃ found skipped,
      Gathered.addLine folder gathered ((renderImport imp).toList, number) =
          { gathered with imports := found, skipped } ∧
        ∀ other ∈ found, other ∈ gathered.imports ∨
          Imports folder (renderImport imp).toList other := by
  rcases content_renderImport h with ⟨more, hcontent⟩
  have hstatement := readStatement_importKeyword imp.scope (placeText imp ++ '/' :: more)
  rw [← hcontent] at hstatement
  unfold Gathered.addLine
  dsimp only
  cases hread : readImport? (content (renderImport imp).toList).1 with
  | none =>
      rw [hread] at hstatement
      rw [hstatement]
      exact ⟨_, _, rfl, fun other hother => .inl hother⟩
  | some found =>
      rw [hread] at hstatement
      rw [hstatement]
      dsimp only
      cases htarget : readTarget folder found.1 found.2 with
      | error reason => exact ⟨_, _, rfl, fun other hother => .inl hother⟩
      | ok new =>
          dsimp only
          split
          · exact ⟨_, _, rfl, fun other hother => .inl hother⟩
          · refine ⟨_, _, rfl, ?_⟩
            intro other hother
            rcases List.mem_append.mp hother with hold | hsame
            · exact .inl hold
            · rw [List.mem_singleton.mp hsame]
              exact .inr ⟨found.1, found.2, hstatement, htarget⟩

theorem addLines_renderImport {number : Nat} (h : ∀ imp ∈ imports, ReadBelow folder imp) :
    ∃ found skipped,
      (((imports.map renderImport).map String.toList).zipIdx number).foldl
          (Gathered.addLine folder) gathered = { gathered with imports := found, skipped } ∧
        ∀ other ∈ found, other ∈ gathered.imports ∨
          ∃ imp ∈ imports, Imports folder (renderImport imp).toList other := by
  induction imports generalizing gathered number with
  | nil => exact ⟨_, _, rfl, fun other hother => .inl hother⟩
  | cons imp imports ih =>
      have hline : ∃ found skipped,
          Gathered.addLine folder gathered ((renderImport imp).toList, number) =
              { gathered with imports := found, skipped } ∧
            ∀ other ∈ found, other ∈ gathered.imports ∨
              Imports folder (renderImport imp).toList other :=
        addLine_renderImport (h imp List.mem_cons_self)
      rcases hline with ⟨found, skipped, hadd, hfound⟩
      rw [List.map_cons, List.map_cons, List.zipIdx_cons, List.foldl_cons, hadd]
      rcases ih fun other hother => h other (List.mem_cons_of_mem imp hother) with
        ⟨later, laterSkipped, hadds, hlater⟩
      refine ⟨later, laterSkipped, hadds, ?_⟩
      intro other hother
      rcases hlater other hother with hbefore | ⟨source, hsource, himports⟩
      · rcases hfound other hbefore with hold | himports
        · exact .inl hold
        · exact .inr ⟨imp, List.mem_cons_self, himports⟩
      · exact .inr ⟨source, List.mem_cons_of_mem imp hsource, himports⟩

/-!
# Imports that are found again
-/

/-- The written import reads as itself: no branch without a project, and a path of plain signs. -/
structure Restorable (imp : Import) : Prop where
  place : imp.project = none → imp.branch = none
  path : ∀ c ∈ imp.path.toList, Text.isBlank c = false ∧ c ≠ '#' ∧ c ≠ ':'

theorem nameOf?_writable (h : WritableName name) : nameOf? name.toList = some name := by
  unfold nameOf?
  rw [String.ofList_toList]
  apply nonempty?_writable
  intro other hother
  cases hother
  exact h

theorem splitOn_target (h : ReadBelow folder imp) {more first : List Char} {others : List (List Char)}
    (hpieces : Text.splitOn ':' more = first :: others) :
    Text.splitOn ':' (placeText imp ++ '/' :: more) =
      match imp.project, imp.branch with
      | none, _ => ('/' :: first) :: others
      | some project, none => project.toList :: ('/' :: first) :: others
      | some project, some branch => project.toList :: branch.toList :: ('/' :: first) :: others := by
  have hslash : Text.splitOn ':' ('/' :: more) = ('/' :: first) :: others := by
    rw [Text.splitOn, if_neg (by decide), hpieces]
  have hcolon : ∀ name, WritableName name → ':' ∉ name.toList :=
    fun name hname hmem => (hname.free _ hmem).2.2 rfl
  unfold placeText
  rw [nonempty?_writable h.project, nonempty?_writable h.branch]
  cases hproject : imp.project with
  | none => exact hslash
  | some project =>
      have hfree := hcolon project (h.project project hproject)
      cases hbranch : imp.branch with
      | none =>
          dsimp only
          rw [List.append_assoc, List.cons_append, List.nil_append, Text.splitOn_append hfree, hslash]
      | some branch =>
          have hfreeBranch := hcolon branch (h.branch branch hbranch)
          dsimp only
          rw [List.append_assoc, List.cons_append, Text.splitOn_append hfree, List.append_assoc,
            List.cons_append, List.nil_append, Text.splitOn_append hfreeBranch, hslash]

theorem resolveImport_normal {path : String} (hnormal : Path.IsNormal path.toList)
    (hblank : ∀ c ∈ path.toList, Text.isBlank c = false) :
    resolveImport folder scope project branch path.toList = .ok { project, branch, path, scope } := by
  have hsame : Path.normalize path = .ok path :=
    Path.normalize_of_isNormal hnormal (Text.trimmed_of_no_blank hblank)
  unfold resolveImport
  dsimp only
  rw [String.ofList_toList, if_pos (Path.head_of_isNormal hnormal)]
  change Import.create project branch path scope = _
  unfold Import.create
  rw [hsame]
  rfl

theorem readTarget_written (h : ReadBelow folder imp) (hplain : Restorable imp) :
    readTarget folder imp.scope (placeText imp ++ imp.path.toList) = .ok imp := by
  rcases List.head?_eq_some_iff.mp (Path.head_of_isNormal h.normal) with ⟨rest, hpath⟩
  have hrest : Text.splitOn ':' rest = [rest] := by
    apply Text.splitOn_of_notMem
    intro hmem
    have hin : ':' ∈ imp.path.toList := hpath ▸ List.mem_cons_of_mem '/' hmem
    exact (hplain.path _ hin).2.2 rfl
  have hresolved : ∀ project branch, resolveImport folder imp.scope project branch ('/' :: rest) =
      .ok { project, branch, path := imp.path, scope := imp.scope } := by
    intro project branch
    rw [← hpath]
    exact resolveImport_normal h.normal fun c hc => (hplain.path c hc).1
  rw [readTarget_eq, hpath, splitOn_target h hrest]
  rcases imp with ⟨project, branch, path, scope⟩
  cases project with
  | none =>
      have hbranch : branch = none := hplain.place rfl
      subst hbranch
      dsimp only
      rw [hresolved]
      rfl
  | some project =>
      have hproject : nameOf? project.toList = some project := nameOf?_writable (h.project project rfl)
      cases branch with
      | none =>
          dsimp only
          rw [hproject, hresolved]
          rfl
      | some branch =>
          have hbranch : nameOf? branch.toList = some branch := nameOf?_writable (h.branch branch rfl)
          dsimp only
          rw [hproject, hbranch, hresolved]
          rfl

theorem mem_target (h : ReadBelow folder imp) (hplain : Restorable imp)
    (hc : c ∈ placeText imp ++ imp.path.toList) : Text.isBlank c = false ∧ c ≠ '#' := by
  rcases List.mem_append.mp hc with hmem | hmem
  · exact h.mem_placeText hmem
  · exact ⟨(hplain.path c hmem).1, (hplain.path c hmem).2.1⟩

theorem target_ne_nil (h : ReadBelow folder imp) : placeText imp ++ imp.path.toList ≠ [] := by
  intro hnil
  have hhead := Path.head_of_isNormal h.normal
  rw [(List.append_eq_nil_iff.mp hnil).2] at hhead
  cases hhead

theorem imports_renderImport (h : ReadBelow folder imp) (hplain : Restorable imp) :
    Imports folder (renderImport imp).toList imp := by
  have hcontent : (content (renderImport imp).toList).1 = (renderImport imp).toList := by
    rw [toList_renderImport, content_plain]
    · intro hmem
      rcases List.mem_append.mp hmem with hkeyword | htarget
      · exact (mem_importKeyword hkeyword).1 rfl
      · exact (mem_target h hplain htarget).2 rfl
    · constructor
      · exact head_importKeyword
      · intro c hc
        rw [List.getLast?_append_of_ne_nil _ (target_ne_nil h)] at hc
        exact (mem_target h hplain (List.mem_of_mem_getLast? hc)).1
  have hstatement : readStatement (renderImport imp).toList =
      .importing imp.scope (placeText imp ++ imp.path.toList) := by
    rw [toList_renderImport]
    apply readStatement_import imp.scope (target_ne_nil h)
    intro c hc
    exact (mem_target h hplain hc).1
  rw [← hcontent] at hstatement
  exact ⟨imp.scope, _, hstatement, readTarget_written h hplain⟩

theorem addLines_restorable {number : Nat} (h : ∀ imp ∈ imports, ReadBelow folder imp)
    (hplain : ∀ imp ∈ imports, Restorable imp) (hdistinct : (gathered.imports ++ imports).Nodup) :
    (((imports.map renderImport).map String.toList).zipIdx number).foldl
        (Gathered.addLine folder) gathered =
      { gathered with imports := gathered.imports ++ imports } := by
  induction imports generalizing gathered number with
  | nil =>
      change gathered = { gathered with imports := gathered.imports ++ [] }
      rw [List.append_nil]
  | cons imp imports ih =>
      have hnew : imp ∉ gathered.imports := by
        intro hmem
        exact (List.nodup_append.mp hdistinct).2.2 imp hmem imp List.mem_cons_self rfl
      rw [List.map_cons, List.map_cons, List.zipIdx_cons, List.foldl_cons,
        addLine_of_imports (imports_renderImport (h imp List.mem_cons_self)
          (hplain imp List.mem_cons_self)), if_neg hnew,
        ih (fun other hother => h other (List.mem_cons_of_mem imp hother))
          (fun other hother => hplain other (List.mem_cons_of_mem imp hother))
          (by rw [List.append_assoc]; exact hdistinct)]
      dsimp only
      rw [List.append_assoc]
      rfl

/-!
# What a written line can be read as

A line that is not read as its own import is read as one with more names in front of its path, since
what it lost to a colon stands there.  So no row of imports can be read back out of order: the import
with the fewest names that would have to come from another line cannot come from any.
-/

def names (imp : Import) : Nat :=
  match imp.project, imp.branch with
  | none, _ => 0
  | some _, none => 1
  | some _, some _ => 2

theorem resolveImport_absolute (habsolute : path.head? = some '/')
    (h : resolveImport folder scope project branch path = .ok imp) :
    imp.project = project ∧ imp.branch = branch ∧ ∀ c ∈ imp.path.toList, c = '/' ∨ c ∈ path := by
  unfold resolveImport at h
  dsimp only at h
  rw [String.toList_ofList, if_pos habsolute] at h
  have hcreate := create_eq_ok h
  refine ⟨hcreate.1, hcreate.2.1, ?_⟩
  have hmem := (Path.normalize_eq_ok hcreate.2.2.2).2
  rw [String.toList_ofList] at hmem
  exact hmem

theorem nameOf?_slash (letters : List Char) : ∃ name, nameOf? ('/' :: letters) = some name := by
  have hne : (String.ofList ('/' :: letters)).isEmpty = false := by
    rw [← Bool.not_eq_true, String.isEmpty_iff]
    intro hempty
    have hletters := congrArg String.toList hempty
    rw [String.toList_ofList] at hletters
    cases hletters
  refine ⟨String.ofList ('/' :: letters), ?_⟩
  unfold nameOf? Text.nonempty?
  rw [Option.filter_some, hne]
  rfl

theorem target_renderImport {line : List Char} {other : Import} {more : List Char}
    (hcontent : (content line).1 = importKeyword scope ++ (placeText imp ++ '/' :: more))
    (h : ReadBelow folder imp) (hread : Imports folder line other) :
    (∀ c ∈ more, Text.isBlank c = false ∧ c ≠ '#') ∧
      readTarget folder scope (placeText imp ++ '/' :: more) = .ok other := by
  rcases hread with ⟨found, target, hstatement, htarget⟩
  have hhead : ∀ c ∈ (placeText imp ++ '/' :: more).head?, Text.isBlank c = false := by
    intro c hc
    cases hplace : placeText imp with
    | nil =>
        rw [hplace] at hc
        cases hc
        decide
    | cons first rest =>
        rw [hplace] at hc
        cases hc
        apply (h.mem_placeText ?_).1
        rw [hplace]
        exact List.mem_cons_self
  have himport := readStatement_importing hstatement
  have hfree : ∀ c ∈ target, Text.isBlank c = false ∧ c ≠ '#' := by
    intro c hc
    have hmem := (readImport?_eq_some himport).2 c hc
    exact ⟨hmem.1, (mem_content hmem.2).1⟩
  rw [hcontent, readImport?_keyword scope hhead] at himport
  split at himport
  · cases himport
  · cases himport
    refine ⟨?_, htarget⟩
    intro c hc
    exact hfree c (List.mem_append_right _ (List.mem_cons_of_mem '/' hc))

theorem restorable_of_absolute {other : Import} {letters : List Char}
    (hletters : ∀ c ∈ letters, Text.isBlank c = false ∧ c ≠ '#' ∧ c ≠ ':')
    (hplace : project = none → branch = none)
    (h : (resolveImport folder scope project branch ('/' :: letters)).mapError
      SkipReason.importPath = .ok other) : Restorable other := by
  rcases resolveImport_absolute rfl (resolveImport_of_mapError h) with ⟨rfl, rfl, hpath⟩
  refine ⟨hplace, ?_⟩
  intro c hc
  rcases hpath c hc with rfl | hmem
  · decide
  rcases List.mem_cons.mp hmem with rfl | hmem
  · decide
  · exact hletters c hmem

/-- The line of an import is read as one that has a line of its own, or as one with more names. -/
theorem restorable_or_more_names {other : Import} (h : ReadBelow folder imp)
    (hread : Imports folder (renderImport imp).toList other) :
    Restorable other ∨ names imp < names other := by
  rcases content_renderImport h with ⟨more, hcontent⟩
  rcases target_renderImport hcontent h hread with ⟨hfree, htarget⟩
  rcases List.exists_cons_of_ne_nil (Text.splitOn_ne_nil ':' more) with ⟨first, others, hpieces⟩
  have hfirst : ∀ c ∈ first, Text.isBlank c = false ∧ c ≠ '#' ∧ c ≠ ':' := by
    intro c hc
    have hmem := Text.mem_piece (by rw [hpieces]; exact List.mem_cons_self) hc
    exact ⟨(hfree c hmem.1).1, (hfree c hmem.1).2, hmem.2⟩
  rcases nameOf?_slash first with ⟨slashed, hslashed⟩
  have hnames : ∀ project branch path,
      (resolveImport folder imp.scope project branch path).mapError SkipReason.importPath = .ok other →
        other.project = project ∧ other.branch = branch := by
    intro project branch path hok
    have hresolved := resolveImport_eq_ok (resolveImport_of_mapError hok)
    exact ⟨hresolved.1, hresolved.2.1⟩
  rw [readTarget_eq, splitOn_target h hpieces] at htarget
  unfold names
  cases hproject : imp.project with
  | none =>
      rw [hproject] at htarget
      match others with
      | [] => exact .inl (restorable_of_absolute hfirst (fun _ => rfl) htarget)
      | [_] =>
          rcases hnames _ _ _ htarget with ⟨hname, hbranch⟩
          right
          rw [hname, hbranch, hslashed]
          exact Nat.zero_lt_one
      | [middle, _] =>
          rcases hnames _ _ _ htarget with ⟨hname, hbranch⟩
          right
          rw [hname, hbranch, hslashed]
          cases nameOf? middle with
          | none => exact Nat.zero_lt_one
          | some name => exact Nat.zero_lt_two
      | _ :: _ :: _ :: _ => cases htarget
  | some project =>
      have hplace : nameOf? project.toList = some project :=
        nameOf?_writable (h.project project hproject)
      rw [hproject] at htarget
      cases hbranch : imp.branch with
      | none =>
          rw [hbranch] at htarget
          match others with
          | [] =>
              dsimp only at htarget
              rw [hplace] at htarget
              exact .inl (restorable_of_absolute hfirst (fun hnone => by cases hnone) htarget)
          | [_] =>
              rcases hnames _ _ _ htarget with ⟨hname, hsecond⟩
              right
              rw [hname, hsecond, hplace, hslashed]
              exact Nat.one_lt_two
          | _ :: _ :: _ => cases htarget
      | some branch =>
          rw [hbranch] at htarget
          match others with
          | [] =>
              dsimp only at htarget
              rw [hplace] at htarget
              exact .inl (restorable_of_absolute hfirst (fun hnone => by cases hnone) htarget)
          | _ :: _ => cases htarget

/-- Imports that are all read from lines of each other are read from their own lines. -/
theorem restorable_of_read_back (h : ∀ imp ∈ imports, ReadBelow folder imp)
    (hback : ∀ imp ∈ imports, ∃ source ∈ imports, Imports folder (renderImport source).toList imp) :
    ∀ imp ∈ imports, Restorable imp := by
  intro imp himp
  induction hnames : names imp using Nat.strong_induction_on generalizing imp with
  | _ count ih =>
      rcases hback imp himp with ⟨source, hsource, hread⟩
      rcases restorable_or_more_names (h source hsource) hread with hplain | hmore
      · exact hplain
      · -- the source has fewer names, so it keeps its own line and `imp` must be this source
        have hown : Restorable source := ih (names source) (hnames ▸ hmore) source hsource rfl
        rw [imports_unique hread (imports_renderImport (h source hsource) hown)]
        exact hown

end LineFormat
end Ownership
