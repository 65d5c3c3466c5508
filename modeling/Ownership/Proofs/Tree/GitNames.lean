import Ownership.Proofs.Path.NormalForms
import Ownership.Proofs.Tree.Differences

/-!
# Names that git can store

Git stores any name whose components are neither empty nor dots.  The path that is reported for such
a name is its normal form.  Normalizing tells names apart by their components alone, after
backslashes have become slashes and blanks at the end have gone.
-/

namespace Ownership
namespace GitTree

/-- A name of a file in a repository. -/
structure IsGitName (name : String) : Prop where
  parts : ∀ part ∈ Text.splitOn '/' name.toList,
    part ≠ [] ∧ part ≠ ['.'] ∧ part ≠ ['.', '.']
  noZero : '\x00' ∉ name.toList

/-- A name without backslashes whose end is not blank. -/
structure IsPlain (name : String) : Prop where
  noBackslash : '\\' ∉ name.toList
  noBlankEnd : ∀ c ∈ name.toList.getLast?, Text.isBlank c = false

instance (name : String) : Decidable (IsGitName name) :=
  decidable_of_iff ((∀ part ∈ Text.splitOn '/' name.toList,
      part ≠ [] ∧ part ≠ ['.'] ∧ part ≠ ['.', '.']) ∧ '\x00' ∉ name.toList)
    ⟨fun h => ⟨h.1, h.2⟩, fun h => ⟨h.parts, h.noZero⟩⟩

instance (name : String) : Decidable (IsPlain name) :=
  decidable_of_iff ('\\' ∉ name.toList ∧
      (name.toList.getLast?.all fun c => !Text.isBlank c) = true)
    ⟨fun h => ⟨h.1, (Text.all_not_isBlank_iff _).mp h.2⟩,
      fun h => ⟨h.noBackslash, (Text.all_not_isBlank_iff _).mpr h.noBlankEnd⟩⟩

/-- What normalizing sees of a name. -/
def partsOf (name : String) : List (List Char) :=
  Path.components (Path.unifySlashes ('/' :: name.toList))

/-- The path that is reported for a name. -/
def placeOf (name : String) : String := String.ofList (Path.ofComponents (partsOf name))

def addedFile (name : String) : ChangedFile := { newPath := some (placeOf name), kind := .added }

variable {git : GitTree} {name p q : String} {names : List String} {files : List ChangedFile}

/-!
# Places
-/

theorem toList_slash_append (name : String) : ("/" ++ name).toList = '/' :: name.toList :=
  String.toList_append

theorem head_unifySlashes_slash (letters : List Char) :
    (Path.unifySlashes ('/' :: letters)).head? = some '/' := by
  unfold Path.unifySlashes
  rw [List.map_cons, if_neg (by decide), ← List.singleton_append,
    Text.trim_append (List.cons_ne_nil '/' []) (by decide)]
  rfl

theorem normalForm_slash (name : String) : Path.normalForm ("/" ++ name).toList =
    if ['.', '.'] ∈ partsOf name then .error .climbs else .ok (Path.ofComponents (partsOf name)) := by
  unfold Path.normalForm
  dsimp only
  rw [toList_slash_append, head_unifySlashes_slash, if_neg (not_not_intro rfl)]
  rfl

theorem normalize_slash (name : String) : Path.normalize ("/" ++ name) =
    if ['.', '.'] ∈ partsOf name then .error ⟨"/" ++ name, .climbs⟩ else .ok (placeOf name) := by
  unfold Path.normalize
  rw [normalForm_slash]
  by_cases hclimbs : ['.', '.'] ∈ partsOf name
  · rw [if_pos hclimbs, if_pos hclimbs]
  · rw [if_neg hclimbs, if_neg hclimbs]
    rfl

theorem normalize_slash_eq_ok {place : String} (h : Path.normalize ("/" ++ name) = .ok place) :
    ['.', '.'] ∉ partsOf name ∧ place = placeOf name := by
  rw [normalize_slash] at h
  split at h
  · cases h
  · rename_i hclimbs
    cases h
    exact ⟨hclimbs, rfl⟩

theorem placeOf_eq_iff (hp : ['.', '.'] ∉ partsOf p) (hq : ['.', '.'] ∉ partsOf q) :
    placeOf p = placeOf q ↔ partsOf p = partsOf q := by
  have hcomponents : ∀ {name}, ['.', '.'] ∉ partsOf name →
      Path.components (placeOf name).toList = partsOf name := by
    intro name hname
    unfold placeOf
    rw [String.toList_ofList, Path.components_ofComponents]
    intro part hpart
    exact Path.isComponent_of_mem hpart hname
  constructor
  · intro h
    rw [← hcomponents hp, h, hcomponents hq]
  · intro h
    unfold placeOf
    rw [h]

/-- Normalizing leaves a plain name of git alone. -/
theorem normalize_of_isPlain (hname : IsGitName name) (hplain : IsPlain name) :
    Path.normalize ("/" ++ name) = .ok ("/" ++ name) := by
  apply Path.normalize_of_isNormal
  · refine ⟨Text.splitOn '/' name.toList, ?_, ?_⟩
    · unfold Path.ofComponents
      rw [toList_slash_append, Text.joinWith_splitOn]
    · intro part hpart
      rcases hname.parts part hpart with ⟨hnonempty, hdot, hdots⟩
      refine ⟨hnonempty, hdot, hdots, fun c hc => ?_⟩
      have hpiece := Text.mem_piece hpart hc
      refine ⟨hpiece.2, ?_⟩
      rintro rfl
      exact hplain.noBackslash hpiece.1
  · rw [toList_slash_append]
    constructor
    · rintro _ ⟨⟩
      rfl
    · intro c hc
      cases hletters : name.toList with
      | nil =>
          rw [hletters] at hc
          cases hc
          rfl
      | cons first others =>
          rw [hletters, List.getLast?_cons_cons, ← hletters] at hc
          exact hplain.noBlankEnd c hc

theorem placeOf_of_isPlain (hname : IsGitName name) (hplain : IsPlain name) :
    placeOf name = "/" ++ name :=
  (normalize_slash_eq_ok (normalize_of_isPlain hname hplain)).2.symm

/-!
# Added files
-/

theorem IsGitName.ne_empty (h : IsGitName name) : name ≠ "" := by
  rintro rfl
  exact (h.parts [] (List.mem_singleton_self [])).1 rfl

theorem fields_of_isGitName (h : IsGitName name) :
    ∀ field ∈ (Entry.added name).fields, field ≠ "" ∧ '\x00' ∉ field.toList := by
  intro field hfield
  rcases List.mem_cons.mp hfield with rfl | hfield
  · exact ⟨by simp [Entry.status], by simp [Entry.status]⟩
  · rcases List.mem_singleton.mp hfield with rfl
    exact ⟨h.ne_empty, h.noZero⟩

theorem readEntries_added (hnames : ∀ name ∈ names, IsGitName name)
    (hclimbs : ∀ name ∈ names, ['.', '.'] ∉ partsOf name) :
    readEntries ((names.map Entry.added).flatMap Entry.fields) = .ok (names.map addedFile) := by
  have hsound : ∀ entry ∈ names.map Entry.added, entry.IsSound placeOf := by
    intro entry hentry
    rcases List.mem_map.mp hentry with ⟨name, hname, rfl⟩
    refine ⟨fields_of_isGitName (hnames name hname), fun other hother => ?_, nofun⟩
    rcases List.mem_singleton.mp hother with rfl
    rw [normalize_slash, if_neg (hclimbs other hname)]
  rw [readEntries_flatMap hsound, List.filterMap_map]
  congr 1
  exact congrFun List.filterMap_eq_map names

theorem exists_normalize_of_changedFile {kind : ChangeKind} {file : ChangedFile}
    (h : changedFile kind none (some name) = .ok file) :
    ∃ place, Path.normalize ("/" ++ name) = .ok place := by
  cases hnormal : Path.normalize ("/" ++ name) with
  | ok place => exact ⟨place, rfl⟩
  | error refusal =>
      unfold changedFile checkedName at h
      dsimp only at h
      rw [hnormal] at h
      cases h

theorem notMem_of_readEntries
    (h : readEntries ((names.map Entry.added).flatMap Entry.fields) = .ok files) :
    ∀ name ∈ names, ['.', '.'] ∉ partsOf name := by
  induction names generalizing files with
  | nil => nofun
  | cons first names ih =>
      have hkind : kindOf? "A" = some .added := by decide
      change readEntries ("A" :: first :: (names.map Entry.added).flatMap Entry.fields) = _ at h
      rw [readEntries, hkind] at h
      rcases except_bind_eq_ok.mp h with ⟨file, hfile, hrest⟩
      rcases except_bind_eq_ok.mp hrest with ⟨others, hothers, _⟩
      intro name hname
      rcases List.mem_cons.mp hname with rfl | hlater
      · rcases exists_normalize_of_changedFile hfile with ⟨place, hplace⟩
        exact (normalize_slash_eq_ok hplace).1
      · exact ih hothers name hlater

/-!
# Names in one listing
-/

theorem changedFiles_of_added {project : String} {repository : HostPath} {revision : String}
    {base : Option String} {complaint : Content}
    (hrepository : git.repositories.get? project = some repository)
    (hrun : git.run (commandLine repository (diffArgs revision base)) =
      .ended 0 (listing (names.map Entry.added)) complaint)
    (hnames : ∀ name ∈ names, IsGitName name) (lines : List (List String)) :
    (∀ files, ((git.changedFiles project revision base).run lines).1 = .ok files →
      files = names.map addedFile ∧ ∀ p ∈ names, ∀ q ∈ names,
        ((addedFile p).newPath = (addedFile q).newPath ↔ partsOf p = partsOf q)) ∧
    ((∀ name ∈ names, IsPlain name) →
      ((git.changedFiles project revision base).run lines).1 = .ok (names.map addedFile) ∧
      ∀ p ∈ names, ∀ q ∈ names, p ≠ q → (addedFile p).newPath ≠ (addedFile q).newPath) := by
  have hfields : ∀ entry ∈ names.map Entry.added, ∀ field ∈ entry.fields,
      field ≠ "" ∧ '\x00' ∉ field.toList := by
    intro entry hentry
    rcases List.mem_map.mp hentry with ⟨name, hname, rfl⟩
    exact fields_of_isGitName (hnames name hname)
  rw [run_changedFiles hrepository hrun hfields lines]
  constructor
  · intro files hfiles
    have hclimbs := notMem_of_readEntries hfiles
    refine ⟨?_, fun p hp q hq => ?_⟩
    · have hreported : readEntries ((names.map Entry.added).flatMap Entry.fields) = .ok files :=
        hfiles
      rw [readEntries_added hnames hclimbs] at hreported
      exact (Except.ok.inj hreported).symm
    · rw [← placeOf_eq_iff (hclimbs p hp) (hclimbs q hq)]
      exact Option.some_inj
  · intro hplain
    have hplace : ∀ name ∈ names, placeOf name = "/" ++ name := fun name hname =>
      placeOf_of_isPlain (hnames name hname) (hplain name hname)
    refine ⟨readEntries_added hnames fun name hname => ?_, fun p hp q hq hne hsame => ?_⟩
    · exact (normalize_slash_eq_ok
        (normalize_of_isPlain (hnames name hname) (hplain name hname))).1
    · have hplaces := Option.some_inj.mp hsame
      rw [hplace p hp, hplace q hq] at hplaces
      apply hne
      have hletters := congrArg String.toList hplaces
      rw [toList_slash_append, toList_slash_append] at hletters
      exact String.toList_inj.mp (List.tail_eq_of_cons_eq hletters)

/-!
# A meadow
-/

def meadow (names : List String) : GitTree where
  repositories := ⟨[("meadow", HostPath.ofString "r")]⟩
  run _ := .ended 0 (listing (names.map Entry.added)) []

theorem meadow_keeps_names_apart :
    ((meadow ["hay", "stack/hay"]).changedFiles "meadow" "tip" none |>.run []).1 = .ok [
      { newPath := some "/hay", kind := .added }, { newPath := some "/stack/hay", kind := .added }] ∧
    (addedFile "hay").newPath ≠ (addedFile "stack/hay").newPath := by
  have hrepository : (meadow ["hay", "stack/hay"]).repositories.get? "meadow" =
      some (HostPath.ofString "r") := rfl
  have hrun : (meadow ["hay", "stack/hay"]).run
      (commandLine (HostPath.ofString "r") (diffArgs "tip" none)) =
        .ended 0 (listing (["hay", "stack/hay"].map Entry.added)) [] := rfl
  have hnames : ∀ name ∈ ["hay", "stack/hay"], IsGitName name := by decide
  have hplain : ∀ name ∈ ["hay", "stack/hay"], IsPlain name := by decide
  rcases (changedFiles_of_added hrepository hrun hnames []).2 hplain with ⟨hfiles, hapart⟩
  have hreported : ["hay", "stack/hay"].map addedFile = [
      { newPath := some "/hay", kind := .added },
      { newPath := some "/stack/hay", kind := .added }] := by decide
  rw [hreported] at hfiles
  exact ⟨hfiles, hapart "hay" (by simp) "stack/hay" (by simp) (by decide)⟩

/-- Git stores a name with a backslash next to one with a slash, and both are reported as one. -/
theorem meadow_takes_names_for_one :
    IsGitName "stack\\hay" ∧ IsGitName "stack/hay" ∧
    ((meadow ["stack\\hay", "stack/hay"]).changedFiles "meadow" "tip" none |>.run []).1.toOption =
      some [{ newPath := some "/stack/hay", kind := .added },
        { newPath := some "/stack/hay", kind := .added }] := by
  refine ⟨by decide, by decide, ?_⟩
  decide +kernel

end GitTree
end Ownership
