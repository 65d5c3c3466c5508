/-!
# Splitting and joining

`splitOn` cuts a text at every occurrence of one character; the pieces may be empty and there is
always at least one.  Joining the pieces with the same character gives the text back.
-/

namespace Ownership
namespace Text

/-- Parts of a text are compared character by character. -/
instance lawfulBEqChars : LawfulBEq (List Char) := inferInstance

def splitOn [DecidableEq α] (separator : α) : List α → List (List α)
  | [] => [[]]
  | c :: rest =>
      if c = separator then [] :: splitOn separator rest
      else match splitOn separator rest with
        | [] => [[c]]
        | piece :: pieces => (c :: piece) :: pieces

def joinWith (separator : α) (pieces : List (List α)) : List α :=
  List.intercalate [separator] pieces

def cutAt? (separator : Char) : List Char → Option (List Char × List Char)
  | [] => none
  | c :: rest =>
      if c = separator then some ([], rest)
      else (cutAt? separator rest).map fun (before, behind) => (c :: before, behind)

def dropPrefix? : List Char → List Char → Option (List Char)
  | [], s => some s
  | _ :: _, [] => none
  | p :: ps, c :: cs => if p = c then dropPrefix? ps cs else none

/-- A text that says something; an empty one counts as none. -/
def nonempty? (text : Option String) : Option String :=
  text.filter fun text => !text.isEmpty

theorem splitOn_ne_nil [DecidableEq α] (separator : α) (s : List α) : splitOn separator s ≠ [] := by
  induction s with
  | nil => simp [splitOn]
  | cons c rest ih =>
      by_cases h : c = separator
      · simp [splitOn, h]
      · simp only [splitOn, h, if_false]
        split <;> simp

theorem joinWith_splitOn [DecidableEq α] (separator : α) (s : List α) :
    joinWith separator (splitOn separator s) = s := by
  induction s with
  | nil => rfl
  | cons c rest ih =>
      by_cases h : c = separator
      · subst h
        have hne := splitOn_ne_nil c rest
        cases hs : splitOn c rest with
        | nil => exact absurd hs hne
        | cons piece pieces =>
            rw [hs] at ih
            simp [splitOn, hs, joinWith, List.intercalate] at ih ⊢
            exact ih
      · cases hs : splitOn separator rest with
        | nil => exact absurd hs (splitOn_ne_nil separator rest)
        | cons piece pieces =>
            rw [hs] at ih
            cases pieces with
            | nil => simp_all [splitOn, joinWith, List.intercalate]
            | cons next others => simp_all [splitOn, joinWith, List.intercalate]

theorem eq_append_of_cutAt? {separator : Char} {s before behind : List Char}
    (h : cutAt? separator s = some (before, behind)) :
    s = before ++ separator :: behind ∧ separator ∉ before := by
  induction s generalizing before with
  | nil => simp [cutAt?] at h
  | cons c rest ih =>
      by_cases hc : c = separator
      · simp only [cutAt?, hc, if_true, Option.some.injEq, Prod.mk.injEq] at h
        obtain ⟨rfl, rfl⟩ := h
        simp [hc]
      · simp only [cutAt?, hc, if_false, Option.map_eq_some_iff, Prod.mk.injEq, Prod.exists] at h
        obtain ⟨first, last, hrest, rfl, rfl⟩ := h
        obtain ⟨hs, hnot⟩ := ih hrest
        exact ⟨by simp [hs], by simp [hnot, Ne.symm hc]⟩

theorem length_of_cutAt? {separator : Char} {s before behind : List Char}
    (h : cutAt? separator s = some (before, behind)) : behind.length < s.length := by
  have hs := (eq_append_of_cutAt? h).1
  simp only [hs, List.length_append, List.length_cons]
  omega

theorem dropPrefix?_append (p s : List Char) : dropPrefix? p (p ++ s) = some s := by
  induction p with
  | nil => cases s <;> rfl
  | cons c rest ih => simp [dropPrefix?, ih]

end Text
end Ownership
