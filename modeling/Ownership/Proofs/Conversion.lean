import Ownership.Proofs.BlockFormat.Contents
import Ownership.Proofs.BlockFormat.RoundTrip
import Ownership.Proofs.LineFormat.Merging
import Ownership.Proofs.LineFormat.RoundTrip

/-!
# From the block format to the line format

The block format takes any text for an email or a path expression, while the line format gives commas,
blanks and some other signs a meaning of their own.  Writing lines does not look at these texts.  Where
they can stand in a line, the converted configuration names the same owners for every path; where they
cannot, other owners may be named.
-/

namespace Ownership
namespace LineFormat

variable {key : ConfigKey} {config : OwnerConfig} {set : OwnerSet} {sets : List OwnerSet}
  {text path relative email : String} {gathered : Gathered} {owners : Owners}

/-!
# Who is named for a path
-/

/-- The set is for the path, which is given below the folder, and lists the owner. -/
def Names (set : OwnerSet) (relative email : String) : Prop :=
  set.isFor relative = true ∧ email ∈ set.emails

def Gathered.Names (gathered : Gathered) (relative email : String) : Prop :=
  email ∈ gathered.owners.keys ∨
    ∃ globs, email ∈ (gathered.blocks.getD globs {}).owners.keys ∧
      globs.any (fun glob => Glob.selects glob relative) = true

theorem isFor_global (h : set.globs = []) : set.isFor relative = true := by
  unfold OwnerSet.isFor OwnerSet.isGlobal
  rw [h]
  rfl

theorem isFor_row (h : set.globs ≠ []) :
    set.isFor relative = set.globs.any fun glob => Glob.selects glob relative := by
  unfold OwnerSet.isFor OwnerSet.isGlobal
  rw [List.isEmpty_eq_false_iff.mpr h, Bool.false_or]

theorem names_tables_iff : gathered.Names relative email ↔
    ∃ row, email ∈ (gathered.ownersAt row).keys ∧
      ({ globs := row } : OwnerSet).isFor relative = true := by
  unfold Gathered.Names Gathered.ownersAt
  constructor
  · intro h
    rcases h with hglobal | ⟨globs, hrow, hselects⟩
    · exact ⟨[], hglobal, isFor_global rfl⟩
    · have hne : globs ≠ [] := by
        rintro rfl
        cases hselects
      refine ⟨globs, ?_, ?_⟩
      · rw [if_neg hne]
        exact hrow
      · rw [isFor_row hne]
        exact hselects
  · intro h
    rcases h with ⟨row, hemail, hfor⟩
    split at hemail
    · exact .inl hemail
    · rename_i hne
      rw [isFor_row hne] at hfor
      exact .inr ⟨row, hemail, hfor⟩

theorem names_putAll :
    (sets.foldl Gathered.put gathered).Names relative email ↔
      gathered.Names relative email ∨ ∃ set ∈ sets, LineFormat.Names set relative email := by
  simp only [names_tables_iff, mem_keys_ownersAt_putAll, or_and_right, exists_or]
  apply or_congr_right
  constructor
  · intro h
    rcases h with ⟨row, ⟨set, hset, rfl, hemail⟩, hfor⟩
    exact ⟨set, hset, hfor, List.mem_map.mpr hemail⟩
  · intro h
    rcases h with ⟨set, hset, hfor, hemail⟩
    exact ⟨set.globs, ⟨set, hset, rfl, List.mem_map.mp hemail⟩, hfor⟩

theorem names_sets (h : gathered.Sound) :
    (∃ set ∈ gathered.sets, LineFormat.Names set relative email) ↔
      gathered.Names relative email := by
  rw [names_tables_iff]
  constructor
  · intro hset
    rcases hset with ⟨set, hmem, hfor, hemail⟩
    unfold OwnerSet.emails at hemail
    rw [((mem_sets_iff h).mp hmem).1] at hemail
    exact ⟨set.globs, mem_emails_sortedOwners.mp hemail, hfor⟩
  · intro hrow
    rcases hrow with ⟨row, hkey, hfor⟩
    have hemail := mem_emails_sortedOwners.mpr hkey
    have hsome : sortedOwners (gathered.ownersAt row) ≠ [] := by
      intro hnil
      rw [hnil] at hemail
      cases hemail
    refine ⟨{
        globs := row
        owners := sortedOwners (gathered.ownersAt row)
        overrides := gathered.overridesAt row }, ?_, hfor, hemail⟩
    exact (mem_sets_iff h).mpr ⟨rfl, rfl, .inl hsome⟩

theorem names_sortedRow :
    LineFormat.Names (sortedRow set) relative email ↔ LineFormat.Names set relative email := by
  have hfor : (sortedRow set).isFor relative = set.isFor relative := by
    by_cases hglobal : set.globs = []
    · rw [isFor_global hglobal, isFor_global (Text.sortedDistinct_eq_nil.mpr hglobal)]
    · have hrow : (sortedRow set).globs ≠ [] := fun hnil =>
        hglobal (Text.sortedDistinct_eq_nil.mp hnil)
      rw [isFor_row hglobal, isFor_row hrow, Bool.eq_iff_iff, List.any_eq_true, List.any_eq_true]
      unfold sortedRow
      simp only [Text.mem_sortedDistinct]
  unfold LineFormat.Names
  rw [hfor]
  rfl

/-!
# Conversion
-/

/-- Every email and every path expression of the set can stand in a line. -/
structure Expressible (set : OwnerSet) : Prop where
  globs : ∀ glob ∈ set.globs, WritableGlob glob
  alone : set.globs = [] → ∀ email ∈ set.emails, StandsAlone email
  inList : set.globs ≠ [] → ∀ email ∈ set.emails, StandsInList email

theorem writableSet_sortedRow (h : Expressible set) (hplain : BlockFormat.PlainSet set) :
    WritableSet (sortedRow set) := by
  have hemail : ∀ ref ∈ set.owners, ref.email ∈ set.emails :=
    fun ref href => List.mem_map_of_mem href
  refine ⟨?_, ?_, ?_, ?_⟩
  · intro hne
    refine ⟨hne, Text.sortedDistinct_sortedDistinct set.globs, ?_⟩
    intro glob hglob
    exact h.globs glob (Text.mem_sortedDistinct.mp hglob)
  · intro hnil ref href
    exact h.alone (Text.sortedDistinct_eq_nil.mp hnil) ref.email (hemail ref href)
  · intro hne ref href
    exact h.inList (fun hnil => hne (Text.sortedDistinct_eq_nil.mpr hnil)) ref.email
      (hemail ref href)
  · intro ref href
    rw [hplain.remarks ref href]
    intro remark hremark
    cases hremark

theorem setsFor_eq_ok (h : config.setsFor path = .ok sets) :
    ∃ relative, Path.relativeTo config.key.folder path = .ok relative ∧
      sets = config.sets.filter fun set => set.isFor relative := by
  unfold OwnerConfig.setsFor at h
  cases hrelative : Path.relativeTo config.key.folder path with
  | error reason =>
      rw [hrelative] at h
      cases h
  | ok relative =>
      rw [hrelative] at h
      cases h
      exact ⟨relative, rfl, rfl⟩

theorem exists_mem_filter :
    (∃ set ∈ sets.filter (fun set => set.isFor relative), email ∈ set.emails) ↔
      ∃ set ∈ sets, LineFormat.Names set relative email := by
  unfold LineFormat.Names
  constructor
  · intro h
    rcases h with ⟨set, hset, hemail⟩
    rw [List.mem_filter] at hset
    exact ⟨set, hset.1, hset.2, hemail⟩
  · intro h
    rcases h with ⟨set, hset, hfor, hemail⟩
    exact ⟨set, List.mem_filter.mpr ⟨hset, hfor⟩, hemail⟩

/-- A configuration of the block format whose texts can stand in lines is written, and read again it
has the same flag and names the same owners for every path. -/
theorem conversion_keeps_owners (hread : BlockFormat.read key text = .ok config)
    (hexpressible : ∀ set ∈ config.sets, Expressible set) :
    ∃ once, write config = .ok once ∧
      (read key once).1.ignoresParents = config.ignoresParents ∧
        ∀ path sets, config.setsFor path = .ok sets →
          ∃ later, (read key once).1.setsFor path = .ok later ∧
            ∀ email, (∃ set ∈ later, email ∈ set.emails) ↔ ∃ set ∈ sets, email ∈ set.emails := by
  rcases BlockFormat.plain_of_read hread with ⟨rfl, himports, hplain⟩
  have hsound : (gatheredFrom config).Sound := by
    apply Gathered.Sound.putAll (sound_of_empty rfl rfl)
    intro set hset
    rcases List.mem_map.mp hset with ⟨original, horiginal, rfl⟩
    exact writableSet_sortedRow (hexpressible original horiginal) (hplain original horiginal)
  have hnoImports : ∀ imp ∈ (gatheredFrom config).imports,
      ReadBelow config.key.folder imp ∧ OnOneLine imp.path := by
    rw [gatheredFrom_imports, himports]
    intro imp himp
    cases himp
  have hagain := gather_written hsound hnoImports
  refine ⟨_, write_eq_ok fun set hset _ => (hplain set hset).overrides, ?_⟩
  rw [read_config, toConfig_ignoresParents, hagain.1, gatheredFrom_ignoresParents]
  refine ⟨rfl, ?_⟩
  intro path sets hsets
  rcases setsFor_eq_ok hsets with ⟨relative, hrelative, rfl⟩
  refine ⟨(gatheredFrom config).sets.filter fun set => set.isFor relative, ?_, ?_⟩
  · unfold OwnerConfig.setsFor
    rw [toConfig_sets, hagain.2]
    change (Path.relativeTo config.key.folder path >>= _) = _
    rw [hrelative]
    rfl
  · intro email
    have hstart : ¬Gathered.Names
        { ignoresParents := config.ignoresParents, imports := config.imports } relative email := by
      intro h
      rcases h with hglobal | ⟨globs, hrow, _⟩
      · cases hglobal
      · cases hrow
    rw [exists_mem_filter, exists_mem_filter, names_sets hsound]
    unfold gatheredFrom
    rw [names_putAll, or_iff_right hstart]
    simp only [List.mem_map, exists_exists_and_eq_and, names_sortedRow]

/-!
# A configuration that is converted, and one that is not
-/

def villageConfig : OwnerConfig where
  key := villageKey
  sets := [{ globs := ["*.md", "*.md"], owners := [{ email := "ann@village" }] },
    { owners := [{ email := "bob@village" }, { email := everybody }] }]

def villageText : String :=
  "owners_config \x7b\n  owner_sets \x7b\n    path_expressions: \"*.md\"\n" ++
    "    path_expressions: \"*.md\"\n    owners \x7b\n      email: \"ann@village\"\n    \x7d\n  \x7d\n" ++
    "  owner_sets \x7b\n    owners \x7b\n      email: \"bob@village\"\n    \x7d\n" ++
    "    owners \x7b\n      email: \"*\"\n    \x7d\n  \x7d\n\x7d\n"

theorem village_conversion_keeps_owners :
    BlockFormat.read villageKey villageText = .ok villageConfig ∧
      (∀ set ∈ villageConfig.sets, Expressible set) ∧
        ∃ once, write villageConfig = .ok once ∧
          (read villageKey once).1.ignoresParents = villageConfig.ignoresParents ∧
            ∀ path sets, villageConfig.setsFor path = .ok sets →
              ∃ later, (read villageKey once).1.setsFor path = .ok later ∧
                ∀ email, (∃ set ∈ later, email ∈ set.emails) ↔
                  ∃ set ∈ sets, email ∈ set.emails := by
  have hwritten : BlockFormat.write villageConfig = .ok villageText := by decide +kernel
  have hread : BlockFormat.read villageKey villageText = .ok villageConfig :=
    BlockFormat.read_of_write hwritten
  have hglob : WritableGlob "*.md" :=
    ⟨by decide, by decide, Text.forall_mem_of_all (by decide), by cbv⟩
  have hexpressible : ∀ set ∈ villageConfig.sets, Expressible set := by
    intro set hset
    rcases List.mem_pair.mp hset with rfl | rfl
    · refine ⟨?_, fun hnil => absurd hnil (List.cons_ne_nil _ _), ?_⟩
      · intro glob hmem
        rcases List.mem_pair.mp hmem with rfl | rfl
        · exact hglob
        · exact hglob
      · intro _ email hemail
        rw [List.mem_singleton.mp hemail]
        exact ⟨by decide, Text.forall_mem_of_all (by decide)⟩
    · refine ⟨fun glob hmem => absurd hmem List.not_mem_nil, ?_, fun hne => absurd rfl hne⟩
      intro _ email hemail
      rcases List.mem_pair.mp hemail with rfl | rfl
      · exact ⟨by decide, by decide, by decide⟩
      · exact ⟨by decide, by decide, by decide⟩
  exact ⟨hread, hexpressible, conversion_keeps_owners hread hexpressible⟩

def choiceConfig : OwnerConfig where
  key := villageKey
  sets := [{ globs := ["docs/{a,b}.md"], owners := [{ email := "ann@village" }] }]

def choiceText : String :=
  "owners_config \x7b\n  owner_sets \x7b\n    path_expressions: \"docs/{a,b}.md\"\n" ++
    "    owners \x7b\n      email: \"ann@village\"\n    \x7d\n  \x7d\n\x7d\n"

theorem sorted_halves :
    Text.sortedDistinct ["docs/\x7ba", "b\x7d.md"] = ["b\x7d.md", "docs/\x7ba"] := by
  have hdistinct : (["docs/\x7ba", "b\x7d.md"] : List String).eraseDups =
      ["docs/\x7ba", "b\x7d.md"] := by decide
  have hsorted : (["b\x7d.md", "docs/\x7ba"] : List String).Pairwise fun a b => id a ≤ id b := by
    decide +kernel
  unfold Text.sortedDistinct
  rw [hdistinct]
  exact (Text.sortedBy_eq_of_perm (List.Perm.swap _ _ []) (by decide)).trans
    (Text.sortedBy_of_pairwise hsorted)

/-- The comma of the choice cuts the path expression in two when the line is read. -/
theorem gather_choice : gather "/" "per-file docs/{a,b}.md=ann@village\n".toList =
    ({} : Gathered).put
      { globs := ["b\x7d.md", "docs/\x7ba"], owners := [{ email := "ann@village" }] } := by
  have hlines : Text.splitLines "per-file docs/{a,b}.md=ann@village\n".toList =
      ["per-file docs/{a,b}.md=ann@village".toList] := by decide +kernel
  have hcontent : content "per-file docs/{a,b}.md=ann@village".toList =
      ("per-file docs/{a,b}.md=ann@village".toList, []) :=
    content_plain (by decide) (by decide)
  have hstatement : readStatement "per-file docs/{a,b}.md=ann@village".toList =
      .perFile "docs/{a,b}.md".toList "ann@village".toList := by decide +kernel
  have hpieces : (commaPieces "docs/{a,b}.md".toList).filter (fun glob => !glob.isEmpty) =
      ["docs/\x7ba", "b\x7d.md"] := by decide +kernel
  have hvalid : ∀ glob ∈ ["b\x7d.md", "docs/\x7ba"], Glob.isValid glob = true := by
    intro glob hglob
    rcases List.mem_pair.mp hglob with rfl | rfl
    · cbv
    · cbv
  unfold gather
  rw [hlines, List.zipIdx_cons, List.foldl_cons]
  unfold Gathered.addLine
  dsimp only
  rw [hcontent]
  dsimp only
  rw [hstatement]
  dsimp only
  rw [addPerFile_of_row (hpieces ▸ sorted_halves) (List.cons_ne_nil _ _) hvalid]
  decide +kernel

/-- Such a configuration is converted without a word, and the owner is lost. -/
theorem choice_loses_owner :
    BlockFormat.read villageKey choiceText = .ok choiceConfig ∧
      ∃ once, write choiceConfig = .ok once ∧
        choiceConfig.setsFor "/docs/a.md" = .ok choiceConfig.sets ∧
          (read villageKey once).1.setsFor "/docs/a.md" = .ok [] := by
  have hwritten : BlockFormat.write choiceConfig = .ok choiceText := by decide +kernel
  have hread : BlockFormat.read villageKey choiceText = .ok choiceConfig :=
    BlockFormat.read_of_write hwritten
  have honce : write choiceConfig = .ok "per-file docs/{a,b}.md=ann@village\n" := by
    have hlines : (gatheredFrom choiceConfig).lines =
        ["per-file docs/{a,b}.md=ann@village"] := by
      simp [gatheredFrom, choiceConfig, sortedRow, put_row, Text.sortedDistinct_singleton,
        Gathered.lines, sortedBlocks, sortedOwners, blockLines, perFileLine, joinOwners, addOwner,
        mergeRemarks, Table.getD, Table.get?, Table.insert, Table.insertEntry, sortedImports]
    rw [write_eq_ok (by decide)]
    unfold writtenText
    rw [hlines]
    decide +kernel
  have hsets : (gather "/" "per-file docs/{a,b}.md=ann@village\n".toList).sets =
      [{ globs := ["b\x7d.md", "docs/\x7ba"], owners := [{ email := "ann@village" }] }] := by
    rw [gather_choice, put_row (List.cons_ne_nil _ _), sets_eq]
    simp [Gathered.tellingRows, sortedBlocks, blockSet, Block.tells, sortedOwners, joinOwners,
      addOwner, mergeRemarks, Table.getD, Table.get?, Table.insert, Table.insertEntry]
  refine ⟨hread, _, honce, ?_, ?_⟩
  · cbv
  · have hrelative : Path.relativeTo "/" "/docs/a.md" = .ok "docs/a.md" := by decide +kernel
    have hfirst : Glob.selects "b\x7d.md" "docs/a.md" = false := by cbv
    have hsecond : Glob.selects "docs/\x7ba" "docs/a.md" = false := by cbv
    rw [read_config]
    unfold OwnerConfig.setsFor
    rw [toConfig_sets]
    change (Path.relativeTo "/" "/docs/a.md" >>= fun relative =>
      pure ((gather "/" "per-file docs/{a,b}.md=ann@village\n".toList).sets.filter
        fun set => set.isFor relative)) = _
    rw [hrelative, hsets]
    simp [OwnerSet.isFor, OwnerSet.isGlobal, hfirst, hsecond, bind, Except.bind, pure, Except.pure]

end LineFormat
end Ownership
