import Ownership.Path

/-!
# Ancestor folders

The ancestors of a path are the folder it lies in, the folder of that folder, and so on up to the
root.  Normalizing never makes a path longer and cutting off the last component makes it shorter,
so the climb ends.
-/

namespace Ownership
namespace Path

/-!
# Lengths
-/

/-- The length of the components with one slash in front of each. -/
def weight (parts : List (List Char)) : Nat := (parts.flatMap fun part => '/' :: part).length

theorem length_ofComponents_le (parts : List (List Char)) :
    (ofComponents parts).length ≤ max 1 (weight parts) := by
  suffices h : ∀ part rest, (Text.joinWith '/' (part :: rest)).length + 1 = weight (part :: rest) by
    cases parts with
    | nil => exact Nat.le_max_left 1 _
    | cons part rest =>
        have := h part rest
        simp only [ofComponents, List.length_cons]
        omega
  intro part rest
  induction rest generalizing part with
  | nil => simp [Text.joinWith, List.intercalate, weight]
  | cons next rest ih =>
      have := ih next
      simp only [Text.joinWith, List.intercalate, weight, List.intersperse_cons_cons,
        List.flatten_cons, List.flatMap_cons, List.length_append, List.length_cons,
        List.length_nil] at this ⊢
      omega

theorem weight_filter_le (keep : List Char → Bool) (parts : List (List Char)) :
    weight (parts.filter keep) ≤ weight parts := by
  induction parts with
  | nil => simp [weight]
  | cons part rest ih =>
      by_cases h : keep part = true
      · simp only [h, List.filter_cons_of_pos, weight, List.flatMap_cons, List.length_append] at ih ⊢
        omega
      · simp only [h, List.filter_cons_of_neg, weight, List.flatMap_cons, List.length_append,
          Bool.false_eq_true, not_false_eq_true] at ih ⊢
        omega

theorem weight_splitOn (s : List Char) : weight (Text.splitOn '/' s) = s.length + 1 := by
  induction s with
  | nil => rfl
  | cons c rest ih =>
      by_cases h : c = '/'
      · simp_all [Text.splitOn, weight]
      · cases hs : Text.splitOn '/' rest with
        | nil => exact absurd hs (Text.splitOn_ne_nil '/' rest)
        | cons piece pieces =>
            simp_all [Text.splitOn, weight]

theorem length_trim_le (s : List Char) : (Text.trim s).length ≤ s.length := by
  have hleft := (List.dropWhile_sublist Text.isBlank (l := s)).length_le
  have hright := (List.dropWhile_sublist Text.isBlank
    (l := (s.dropWhile Text.isBlank).reverse)).length_le
  simp only [Text.trim, Text.trimRight, Text.trimLeft, List.length_reverse] at *
  omega

theorem length_normalForm_le {path form : List Char} (h : normalForm path = .ok form) :
    form.length ≤ path.length := by
  simp only [normalForm] at h
  split at h
  · cases h
  · rename_i hhead
    split at h
    · cases h
    · cases h
      have htrim : (unifySlashes path).length ≤ path.length := by
        simpa [unifySlashes] using length_trim_le (path.map fun c => if c = '\\' then '/' else c)
      cases hraw : unifySlashes path with
      | nil => simp [hraw] at hhead
      | cons c rest =>
          rw [hraw] at hhead htrim
          simp only [List.head?_cons, ne_eq, Option.some.injEq, Decidable.not_not] at hhead
          subst hhead
          have hparts : weight (components ('/' :: rest)) ≤ rest.length + 1 := by
            have hsplit : Text.splitOn '/' ('/' :: rest) = [] :: Text.splitOn '/' rest := by
              simp [Text.splitOn]
            rw [components, hsplit, List.filter_cons_of_neg (by simp)]
            exact Nat.le_trans (weight_filter_le _ _) (Nat.le_of_eq (weight_splitOn rest))
          have hlen := length_ofComponents_le (components ('/' :: rest))
          simp only [List.length_cons] at htrim
          omega

theorem folderPart_root_or_shorter (path : List Char) :
    folderPart path = ['/'] ∨ (folderPart path).length < path.length := by
  have hle := (List.dropWhile_sublist (fun c => decide (c ≠ '/')) (l := path.reverse)).length_le
  simp only [folderPart]
  split
  · exact .inl rfl
  · rename_i hne
    refine .inr ?_
    have hlen : ((path.reverse.dropWhile fun c => decide (c ≠ '/')).drop 1).length ≠ 0 := by
      intro hzero
      exact hne (List.eq_nil_of_length_eq_zero hzero)
    simp only [List.length_drop, List.length_reverse] at hlen hle ⊢
    omega

/-- How far a folder is from the end of the climb. -/
def climbLength (folder : String) : Nat := if folder = "/" then 0 else folder.length + 1

theorem climbLength_parentFolder {folder parent : String} (hroot : folder ≠ "/")
    (h : parentFolder folder = .ok parent) : climbLength parent < climbLength folder := by
  simp only [parentFolder, normalize] at h
  cases hform : normalForm folder.toList with
  | error defect => simp [hform, bind, Except.bind] at h
  | ok form =>
      simp only [hform, bind, Except.bind, String.toList_ofList, pure, Except.pure,
        Except.ok.injEq] at h
      have hle := length_normalForm_le hform
      rcases folderPart_root_or_shorter form with hpart | hpart
      · have : parent = "/" := by rw [← h, hpart]
        simp [climbLength, this, hroot]
      · have hlen : parent.length = (folderPart form).length := by
          rw [← h, ← String.length_toList, String.toList_ofList]
        rw [String.length_toList] at hle
        simp only [climbLength, hroot, if_false]
        split <;> omega

/-!
# The climb
-/

def climb (folder : String) : Except PathError (List String) :=
  if _hroot : folder = "/" then .ok [folder]
  else
    match _h : parentFolder folder with
    | .error error => .error error
    | .ok parent =>
        match climb parent with
        | .error error => .error error
        | .ok above => .ok (folder :: above)
termination_by climbLength folder
decreasing_by exact climbLength_parentFolder _hroot _h

/-- The folders from the one that holds the path up to the root. -/
def ancestorFolders (path : String) : Except PathError (List String) := do
  climb (← parentFolder path)

end Path
end Ownership
