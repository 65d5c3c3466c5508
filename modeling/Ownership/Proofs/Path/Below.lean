import Ownership.Proofs.Path.Folders

/-!
# Paths and the folders above them

A path lies below the root and below every text that it continues with a slash.  As long as no
component has a blank at an end, these are the folders that the climb from the path goes through, and
from each of them the path can be told by what is left of it.
-/

namespace Ownership
namespace Path

variable {path normal folder relative : String} {parts above : List (List Char)}
  {last : List Char}

/-!
# Folders by their texts
-/

/-- No component of the path begins or ends with a blank. -/
def HasTrimmedParts (path : String) : Prop := ∀ part ∈ components path.toList, Text.Trimmed part

instance (path : String) : Decidable (HasTrimmedParts path) :=
  inferInstanceAs (Decidable (∀ part ∈ components path.toList, Text.Trimmed part))

/-- The folder is the root, or the path begins with it and goes on with a slash. -/
def IsAbove (folder path : String) : Prop :=
  folder = "/" ∨ folder ≠ "" ∧ (folder ++ "/").toList <+: path.toList

instance (folder path : String) : Decidable (IsAbove folder path) :=
  inferInstanceAs (Decidable (_ ∨ _))

theorem solid_parts_of_trimmed (h : IsNormal normal.toList) (htrimmed : HasTrimmedParts normal) :
    ∃ parts, normal = ofParts parts ∧ ∀ part ∈ parts, IsSolid part := by
  rcases h with ⟨parts, hform, hparts⟩
  refine ⟨parts, String.toList_inj.mp (hform.trans (toList_ofParts parts).symm), ?_⟩
  intro part hpart
  refine ⟨hparts part hpart, ?_⟩
  unfold HasTrimmedParts at htrimmed
  rw [hform, components_ofComponents hparts] at htrimmed
  exact (htrimmed part hpart).2

theorem toList_folder (above : List (List Char)) (h : above ≠ []) :
    (ofParts above ++ "/").toList = slashed above ++ ['/'] := by
  rw [String.toList_append, toList_ofParts, ofComponents_eq_slashed h]
  rfl

/-- Where a slash stands behind a beginning of the path, components end. -/
theorem prefix_of_isAbove (hparts : ∀ part ∈ parts, IsComponent part) (hfolder : folder ≠ "")
    (h : (folder ++ "/").toList <+: (ofParts parts).toList) :
    ∃ above, above <+: parts.dropLast ∧ ofParts above = folder := by
  rcases h with ⟨rest, hletters⟩
  rw [String.toList_append, toList_ofParts, List.append_assoc] at hletters
  change folder.toList ++ '/' :: rest = '/' :: Text.joinWith '/' parts at hletters
  cases hfirst : folder.toList with
  | nil => exact absurd (String.toList_eq_nil_iff.mp hfirst) hfolder
  | cons first letters =>
      rw [hfirst, List.cons_append] at hletters
      injection hletters with hslash hjoined
      have hne : parts ≠ [] := by
        intro hnil
        rw [hnil] at hjoined
        simp [Text.joinWith] at hjoined
      have hsplit : parts = Text.splitOn '/' letters ++ Text.splitOn '/' rest := by
        rw [← Text.splitOn_joinWith hne fun part hpart => (hparts part hpart).slash_notMem,
          ← hjoined, Text.splitOn_eq, Text.splitOn_eq, Text.splitOn_eq]
        exact List.splitOn_append_cons_self letters rest
      refine ⟨Text.splitOn '/' letters, ?_, ?_⟩
      · rw [hsplit, List.dropLast_append_of_ne_nil (Text.splitOn_ne_nil '/' rest)]
        exact List.prefix_append _ _
      · apply String.toList_inj.mp
        rw [toList_ofParts, hfirst, hslash]
        unfold ofComponents
        rw [Text.joinWith_splitOn]

theorem mem_foldersAbove_iff_isAbove (hparts : ∀ part ∈ parts, IsComponent part) :
    folder ∈ foldersAbove parts ↔ IsAbove folder (ofParts parts) := by
  rw [mem_foldersAbove]
  constructor
  · intro h
    rcases h with ⟨above, habove, rfl⟩
    rcases exists_below habove with ⟨rest, rfl, hbelow⟩
    by_cases hroot : above = []
    · rw [hroot]
      exact .inl rfl
    · have hrest : rest ≠ [] := hbelow.resolve_left hroot
      refine .inr ⟨?_, ?_⟩
      · intro hempty
        have hletters := congrArg String.toList hempty
        rw [toList_ofParts] at hletters
        cases hletters
      · rw [toList_folder above hroot, toList_ofParts, ofComponents_eq_slashed (by simp [hroot]),
          slashed_append, List.prefix_append_right_inj]
        cases rest with
        | nil => exact absurd rfl hrest
        | cons first others => exact ⟨first ++ slashed others, rfl⟩
  · intro h
    rcases h with rfl | ⟨hne, hprefix⟩
    · exact ⟨[], List.nil_prefix, rfl⟩
    · exact prefix_of_isAbove hparts hne hprefix

/-!
# The longest folder first
-/

theorem pairwise_inits (h : ∀ part ∈ parts, IsComponent part) :
    (parts.inits.reverse.map ofParts).Pairwise fun lower upper => upper.length < lower.length := by
  induction parts using List.reverseRecOn with
  | nil => exact List.pairwise_singleton _ _
  | append_singleton above last ih =>
      rw [inits_append_singleton, List.reverse_concat, List.map_cons, List.pairwise_cons]
      refine ⟨?_, ih fun part hpart => h part (List.mem_append_left _ hpart)⟩
      intro upper hupper
      rcases List.mem_map.mp hupper with ⟨shorter, hshorter, rfl⟩
      exact length_ofParts_append_singleton (h last (by simp)).nonempty
        ((List.mem_inits _ _).mp (List.mem_reverse.mp hshorter))

theorem getLast?_foldersAbove (parts : List (List Char)) :
    (foldersAbove parts).getLast? = some "/" := by
  unfold foldersAbove
  rw [List.getLast?_map, List.getLast?_reverse]
  cases parts.dropLast <;> rfl

/-!
# What is left of a path
-/

section

variable (hpath : normalize path = .ok normal) (hfolder : normalizeFolder folder = .ok folder)
include hpath hfolder

/-- In a folder that normalizing leaves alone, what is left of a path is what the folder lacks of its
normal form. -/
theorem relativeTo_eq_ok_iff :
    relativeTo folder path = .ok relative ↔
      normal = (if folder = "/" then "/" else folder ++ "/") ++ relative := by
  unfold relativeTo
  rw [hpath, hfolder]
  dsimp only [bind, Except.bind]
  by_cases hroot : folder = "/"
  · rcases exists_parts hpath with ⟨parts, rfl, _⟩
    rw [if_pos hroot, if_pos hroot, ← String.toList_inj, String.toList_append, toList_ofParts]
    change Except.ok (String.ofList (Text.joinWith '/' parts)) = _ ↔
      '/' :: Text.joinWith '/' parts = '/' :: relative.toList
    rw [Except.ok.injEq, List.cons.injEq, and_iff_right rfl, ← String.toList_inj,
      String.toList_ofList]
  · have hfolderSlash : (folder ++ "/").toList = folder.toList ++ ['/'] := String.toList_append ..
    rw [if_neg hroot, if_neg hroot, ← String.toList_inj, String.toList_append, hfolderSlash]
    constructor
    · intro h
      split at h
      · rename_i rest hrest
        cases h
        rw [String.toList_ofList]
        exact Text.dropPrefix?_eq_some hrest
      · cases h
    · intro h
      rw [h, Text.dropPrefix?_append]
      exact congrArg Except.ok (String.ofList_toList ..)

theorem relativeTo_succeeds_iff :
    (∃ relative, relativeTo folder path = .ok relative) ↔ IsAbove folder normal := by
  simp only [relativeTo_eq_ok_iff hpath hfolder]
  unfold IsAbove
  by_cases hroot : folder = "/"
  · rcases exists_parts hpath with ⟨parts, rfl, _⟩
    simp only [hroot, if_true, true_or, iff_true]
    refine ⟨String.ofList (Text.joinWith '/' parts), String.toList_inj.mp ?_⟩
    have hrest : (String.ofList (Text.joinWith '/' parts)).toList = Text.joinWith '/' parts :=
      String.toList_ofList
    rw [toList_ofParts, String.toList_append, hrest]
    rfl
  · have hne : folder ≠ "" := by
      intro hempty
      have hhead := head_of_isNormal (normalizeFolder_eq_ok hfolder).1
      rw [hempty] at hhead
      cases hhead
    simp only [hroot, if_false, false_or, hne, ne_eq, not_false_eq_true, true_and]
    rw [List.prefix_iff_exists_append_eq]
    constructor
    · intro h
      rcases h with ⟨relative, rfl⟩
      exact ⟨relative.toList, String.toList_append.symm⟩
    · intro h
      rcases h with ⟨rest, hrest⟩
      refine ⟨String.ofList rest, String.toList_inj.mp (hrest.symm.trans ?_)⟩
      rw [String.toList_append (s := folder ++ "/"), String.toList_ofList]

theorem relativeTo_fails (h : ¬ IsAbove folder normal) :
    relativeTo folder path = .error ⟨path, .outside folder⟩ := by
  have hnone := mt (relativeTo_succeeds_iff hpath hfolder).mp h
  have hroot : folder ≠ "/" := fun hroot => h (.inl hroot)
  unfold relativeTo at hnone ⊢
  rw [hpath, hfolder] at hnone ⊢
  dsimp only [bind, Except.bind] at hnone ⊢
  rw [if_neg hroot] at hnone ⊢
  cases hrest : Text.dropPrefix? (folder.toList ++ ['/']) normal.toList with
  | none => rfl
  | some rest =>
      rw [hrest] at hnone
      exact absurd ⟨_, rfl⟩ hnone

theorem join_of_relativeTo (h : relativeTo folder path = .ok relative) :
    join folder relative = normalize normal := by
  have hnormal := (relativeTo_eq_ok_iff hpath hfolder).mp h
  unfold join
  rw [hfolder, hnormal]
  dsimp only [bind, Except.bind]
  split <;> rfl

end

/-!
# The folders of a path
-/

/-- A path whose components have no blanks at their ends lies below exactly the folders that the climb
goes through, the longest first, and it can be put together from each of them and what is left of
it. -/
theorem folders_of_trimmed (hpath : normalize path = .ok normal)
    (htrimmed : HasTrimmedParts normal) :
    ∃ folders, ancestorFolders path = .ok folders ∧
      folders.Pairwise (fun lower upper => upper.length < lower.length) ∧ folders.Nodup ∧
      folders.getLast? = some "/" ∧
      (∀ folder, folder ∈ folders ↔ IsAbove folder normal) ∧
      ∀ given folder, normalizeFolder given = .ok folder → HasTrimmedParts folder →
        ((∃ relative, relativeTo folder path = .ok relative) ↔ folder ∈ folders) ∧
        (∀ relative, relativeTo folder path = .ok relative → join folder relative = .ok normal) ∧
        (folder ∉ folders → relativeTo folder path = .error ⟨path, .outside folder⟩) := by
  rcases solid_parts_of_trimmed (normalize_eq_ok hpath).1 htrimmed with ⟨parts, rfl, hsolid⟩
  have hparts : ∀ part ∈ parts, IsComponent part := fun part hpart =>
    (hsolid part hpart).toIsComponent
  have hmem : ∀ folder, folder ∈ foldersAbove parts ↔ IsAbove folder (ofParts parts) :=
    fun folder => mem_foldersAbove_iff_isAbove hparts
  refine ⟨foldersAbove parts, ancestorFolders_of_normalize hpath hsolid, ?_,
    nodup_foldersAbove hparts, getLast?_foldersAbove parts, hmem, ?_⟩
  · exact pairwise_inits fun part hpart => hparts part (List.dropLast_subset parts hpart)
  · intro given folder hgiven hfolderTrimmed
    rcases solid_parts_of_trimmed (normalizeFolder_eq_ok hgiven).1 hfolderTrimmed with
      ⟨above, rfl, habove⟩
    have hfolder := normalizeFolder_ofParts habove
    rw [hmem]
    refine ⟨relativeTo_succeeds_iff hpath hfolder, ?_, relativeTo_fails hpath hfolder⟩
    intro relative hrelative
    rw [join_of_relativeTo hpath hfolder hrelative]
    exact normalize_ofParts hsolid

/-- A folder is not above another one because its name begins like it. -/
theorem folders_of_guide :
    normalize " /docs//api/./index.md" = .ok "/docs/api/index.md" ∧
      HasTrimmedParts "/docs/api/index.md" ∧ normalizeFolder "docs/ap" = .ok "/docs/ap" ∧
      HasTrimmedParts "/docs/ap" ∧
      ∃ folders, ancestorFolders " /docs//api/./index.md" = .ok folders ∧
        folders.getLast? = some "/" ∧ "/docs" ∈ folders ∧ "/docs/ap" ∉ folders ∧
        relativeTo "/docs/ap" " /docs//api/./index.md" =
          .error ⟨" /docs//api/./index.md", .outside "/docs/ap"⟩ := by
  have hpath : normalize " /docs//api/./index.md" = .ok "/docs/api/index.md" := by decide +kernel
  have htrimmed : HasTrimmedParts "/docs/api/index.md" := by decide +kernel
  have hgiven : normalizeFolder "docs/ap" = .ok "/docs/ap" := by decide +kernel
  have hfolder : HasTrimmedParts "/docs/ap" := by decide +kernel
  rcases folders_of_trimmed hpath htrimmed with ⟨folders, hfolders, _, _, hlast, hmem, hbelow⟩
  have hbeside : "/docs/ap" ∉ folders := by
    rw [hmem]
    decide +kernel
  have habove : "/docs" ∈ folders := by
    rw [hmem]
    decide +kernel
  rcases hbelow "docs/ap" "/docs/ap" hgiven hfolder with ⟨_, _, houtside⟩
  exact ⟨hpath, htrimmed, hgiven, hfolder, folders, hfolders, hlast, habove, hbeside,
    houtside hbeside⟩

end Path
end Ownership
