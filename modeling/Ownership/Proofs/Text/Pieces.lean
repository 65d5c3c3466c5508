import Mathlib.Data.List.DropRight
import Ownership.Text.Blank
import Ownership.Text.Lines
import Ownership.Text.Split

/-!
# Taking texts apart and putting them together

What was joined is split into the same pieces as long as no piece holds the separator, and lines
come back as long as no line holds a boundary.  Trimming leaves a text alone that has no blank at
its two ends.
-/

namespace Ownership
namespace Text

variable {s t rest : List Char} {c separator : Char}

theorem forall_mem_of_all {p : Char → Prop} [DecidablePred p]
    (h : s.all (fun c => decide (p c)) = true) : ∀ c ∈ s, p c := by
  intro c hc
  exact of_decide_eq_true (List.all_eq_true.mp h c hc)

/-!
# Splitting
-/

theorem splitOn_eq {α : Type} [DecidableEq α] (separator : α) (s : List α) :
    splitOn separator s = List.splitOn separator s := by
  induction s with
  | nil => rfl
  | cons c s ih =>
      have hne := splitOn_ne_nil separator s
      rw [splitOn, List.splitOn_eq_splitOnP, List.splitOnP_cons_eq_if_modifyHead,
        ← List.splitOn_eq_splitOnP, ← ih]
      by_cases hc : c = separator
      · rw [if_pos hc, if_pos (beq_iff_eq.mpr hc)]
      · rw [if_neg hc, if_neg (fun h => hc (beq_iff_eq.mp h))]
        cases hs : splitOn separator s with
        | nil => exact absurd hs hne
        | cons piece pieces => rfl

theorem splitOn_joinWith {pieces : List (List Char)} (hne : pieces ≠ [])
    (hfree : ∀ piece ∈ pieces, separator ∉ piece) :
    splitOn separator (joinWith separator pieces) = pieces := by
  rw [splitOn_eq]
  exact List.splitOn_intercalate separator hfree hne

theorem splitOn_of_notMem (h : separator ∉ s) : splitOn separator s = [s] := by
  rw [splitOn_eq]
  exact List.splitOn_eq_singleton h

theorem splitOn_append {α : Type} [DecidableEq α] {separator : α} {s : List α} (h : separator ∉ s)
    (t : List α) : splitOn separator (s ++ separator :: t) = s :: splitOn separator t := by
  rw [splitOn_eq, splitOn_eq]
  exact List.splitOn_append_cons_self_of_not_mem h t

theorem mem_piece {piece : List Char} (hpiece : piece ∈ splitOn separator s) (hc : c ∈ piece) :
    c ∈ s ∧ c ≠ separator := by
  induction s generalizing piece with
  | nil =>
      rw [splitOn, List.mem_singleton] at hpiece
      rw [hpiece] at hc
      cases hc
  | cons head s ih =>
      rw [splitOn] at hpiece
      split at hpiece
      · rcases List.mem_cons.mp hpiece with rfl | hlater
        · cases hc
        · have h := ih hlater hc
          exact ⟨List.mem_cons_of_mem head h.1, h.2⟩
      · rename_i hhead
        cases hs : splitOn separator s with
        | nil => exact absurd hs (splitOn_ne_nil separator s)
        | cons first pieces =>
            rw [hs] at hpiece ih
            rcases List.mem_cons.mp hpiece with rfl | hlater
            · rcases List.mem_cons.mp hc with rfl | hinner
              · exact ⟨List.mem_cons_self, hhead⟩
              · have h := ih List.mem_cons_self hinner
                exact ⟨List.mem_cons_of_mem head h.1, h.2⟩
            · have h := ih (List.mem_cons_of_mem first hlater) hc
              exact ⟨List.mem_cons_of_mem head h.1, h.2⟩

theorem mem_joinWith {pieces : List (List Char)} (h : c ∈ joinWith separator pieces) :
    c = separator ∨ ∃ piece ∈ pieces, c ∈ piece := by
  unfold joinWith at h
  induction pieces with
  | nil => cases h
  | cons piece pieces ih =>
      cases pieces with
      | nil =>
          rw [List.intercalate_singleton] at h
          exact .inr ⟨piece, List.mem_singleton_self piece, h⟩
      | cons next others =>
          rw [List.intercalate_cons_cons, List.append_assoc, List.mem_append, List.mem_append,
            List.mem_singleton] at h
          rcases h with hpiece | hseparator | hlater
          · exact .inr ⟨piece, List.mem_cons_self, hpiece⟩
          · exact .inl hseparator
          · rcases ih hlater with hseparator | ⟨other, hother, hc⟩
            · exact .inl hseparator
            · exact .inr ⟨other, List.mem_cons_of_mem piece hother, hc⟩

theorem cutAt?_append (h : separator ∉ s) : cutAt? separator (s ++ separator :: t) = some (s, t) := by
  induction s with
  | nil => simp [cutAt?]
  | cons c s ih =>
      rw [List.mem_cons, not_or] at h
      rw [List.cons_append, cutAt?, if_neg (Ne.symm h.1), ih h.2]
      rfl

/-- What stands in front of the first separator and what stands behind it can be told apart. -/
theorem append_separator_inj {s' t' : List Char} (h : separator ∉ s) (hother : separator ∉ s')
    (heq : s ++ separator :: t = s' ++ separator :: t') : s = s' ∧ t = t' := by
  have hcut := congrArg (cutAt? separator) heq
  rw [cutAt?_append h, cutAt?_append hother] at hcut
  cases hcut
  exact ⟨rfl, rfl⟩

theorem cutAt?_eq_none_iff : cutAt? separator s = none ↔ separator ∉ s := by
  constructor
  · intro h hmem
    rcases List.append_of_mem hmem with ⟨before, behind, rfl⟩
    induction before with
    | nil => simp [cutAt?] at h
    | cons c before ih =>
        rw [List.cons_append, cutAt?] at h
        split at h
        · cases h
        · exact ih (Option.map_eq_none_iff.mp h) (by simp)
  · intro h
    induction s with
    | nil => rfl
    | cons c s ih =>
        rw [List.mem_cons, not_or] at h
        rw [cutAt?, if_neg (Ne.symm h.1), ih h.2]
        rfl

theorem dropPrefix?_eq_some {beginning : List Char} (h : dropPrefix? beginning s = some rest) :
    s = beginning ++ rest := by
  induction beginning generalizing s with
  | nil =>
      cases s with
      | nil =>
          cases h
          rfl
      | cons c s =>
          cases h
          rfl
  | cons first beginning ih =>
      cases s with
      | nil => cases h
      | cons c s =>
          rw [dropPrefix?] at h
          split at h
          · rename_i hsame
            rw [hsame, List.cons_append, ← ih h]
          · cases h

/-!
# Trimming
-/

def Trimmed (s : List Char) : Prop :=
  (∀ c ∈ s.head?, isBlank c = false) ∧ ∀ c ∈ s.getLast?, isBlank c = false

theorem all_not_isBlank_iff (end? : Option Char) :
    (end?.all fun c => !isBlank c) = true ↔ ∀ c ∈ end?, isBlank c = false := by
  cases end? with
  | none => simp
  | some c => simp

instance : Decidable (Trimmed s) :=
  decidable_of_iff ((s.head?.all fun c => !isBlank c) = true ∧
    (s.getLast?.all fun c => !isBlank c) = true)
    (and_congr (all_not_isBlank_iff s.head?) (all_not_isBlank_iff s.getLast?))

theorem trimmed_of_no_blank (h : ∀ c ∈ s, isBlank c = false) : Trimmed s := by
  constructor
  · intro c hc
    exact h c (List.mem_of_mem_head? hc)
  · intro c hc
    exact h c (List.mem_of_mem_getLast? hc)

theorem trimLeft_of_head (h : ∀ c ∈ s.head?, isBlank c = false) : trimLeft s = s := by
  cases s with
  | nil => rfl
  | cons c s =>
      unfold trimLeft
      rw [List.dropWhile_cons_of_neg]
      simp [h c rfl]

theorem trimRight_of_last (h : ∀ c ∈ s.getLast?, isBlank c = false) : trimRight s = s := by
  have hreverse : trimLeft s.reverse = s.reverse := by
    apply trimLeft_of_head
    rw [List.head?_reverse]
    exact h
  unfold trimRight
  change (trimLeft s.reverse).reverse = s
  rw [hreverse, List.reverse_reverse]

theorem trim_of_trimmed (h : Trimmed s) : trim s = s := by
  unfold trim
  rw [trimLeft_of_head h.1, trimRight_of_last h.2]

theorem head_trimLeft (h : c ∈ (trimLeft s).head?) : isBlank c = false := by
  have hfirst := List.head?_dropWhile_not isBlank s
  rw [Option.mem_def] at h
  unfold trimLeft at h
  rw [h] at hfirst
  exact hfirst

theorem last_trimRight (h : c ∈ (trimRight s).getLast?) : isBlank c = false := by
  unfold trimRight at h
  rw [List.getLast?_reverse] at h
  exact head_trimLeft h

theorem trimmed_trim (s : List Char) : Trimmed (trim s) := by
  constructor
  · intro c hc
    -- what is left after trimming on the right begins as before
    have hprefix : trim s <+: trimLeft s := List.rdropWhile_prefix isBlank (trimLeft s)
    rcases hprefix with ⟨blanks, hblanks⟩
    apply head_trimLeft (s := s)
    rw [← hblanks, List.head?_append, hc]
    rfl
  · intro c hc
    exact last_trimRight hc

theorem mem_of_mem_trimLeft (h : c ∈ trimLeft s) : c ∈ s := (List.dropWhile_sublist isBlank).mem h

theorem mem_of_mem_trim (h : c ∈ trim s) : c ∈ s :=
  mem_of_mem_trimLeft ((List.rdropWhile_prefix isBlank (trimLeft s)).mem h)

theorem trim_append (hne : s ≠ []) (h : Trimmed s) : trim (s ++ t) = s ++ trimRight t := by
  have hleft : trimLeft (s ++ t) = s ++ t := by
    apply trimLeft_of_head
    intro c hc
    rw [List.head?_append_of_ne_nil s hne] at hc
    exact h.1 c hc
  have hright : s.reverse.dropWhile isBlank = s.reverse := by
    apply trimLeft_of_head
    rw [List.head?_reverse]
    exact h.2
  unfold trim
  rw [hleft]
  unfold trimRight
  rw [List.reverse_append, List.dropWhile_append, hright]
  split
  · rename_i hempty
    rw [List.isEmpty_iff.mp hempty]
    simp
  · simp

theorem trim_append_blanks (h : Trimmed s) (hblank : ∀ c ∈ t, isBlank c = true) :
    trim (s ++ t) = s := by
  have ht : trimLeft t.reverse = [] := by
    unfold trimLeft
    rw [List.dropWhile_eq_nil_iff]
    intro c hc
    exact hblank c (List.mem_reverse.mp hc)
  have hright : trimRight t = [] := by
    unfold trimRight
    change (trimLeft t.reverse).reverse = []
    rw [ht]
    rfl
  cases hs : s with
  | nil =>
      have hleft : trimLeft t = [] := by
        unfold trimLeft
        rw [List.dropWhile_eq_nil_iff]
        exact hblank
      unfold trim
      rw [List.nil_append, hleft]
      rfl
  | cons first others =>
      rw [← hs, trim_append (by simp [hs]) h, hright, List.append_nil]

/-!
# Lines
-/

theorem isBlank_of_isLineBoundary (h : isLineBoundary c = true) : isBlank c = true := by
  simp only [isLineBoundary, isBlank, Bool.or_eq_true, Bool.and_eq_true, decide_eq_true_eq] at h ⊢
  omega

theorem not_isLineBoundary_of_not_isBlank (h : isBlank c = false) : isLineBoundary c = false := by
  rw [← Bool.not_eq_true] at h ⊢
  intro hboundary
  exact h (isBlank_of_isLineBoundary hboundary)

theorem splitLines_line {line : List Char} (h : ∀ c ∈ line, isLineBoundary c = false) :
    splitLines (line ++ '\n' :: rest) = line :: splitLines rest := by
  induction line with
  | nil =>
      rw [List.nil_append, splitLines]
      · rfl
      · intro _ hreturn
        cases hreturn
  | cons c line ih =>
      have hc : isLineBoundary c = false := h c List.mem_cons_self
      rw [List.cons_append, splitLines, hc, if_neg Bool.false_ne_true,
        ih fun x hx => h x (List.mem_cons_of_mem c hx)]
      · rfl
      · intro _ hreturn
        rw [hreturn] at hc
        cases hc

theorem splitLines_unlines {lines : List (List Char)}
    (h : ∀ line ∈ lines, ∀ c ∈ line, isLineBoundary c = false) :
    splitLines (unlines lines) = lines := by
  unfold unlines
  induction lines with
  | nil => rfl
  | cons line lines ih =>
      rw [List.flatMap_cons, List.append_assoc, List.singleton_append,
        splitLines_line (h line List.mem_cons_self),
        ih fun other hother => h other (List.mem_cons_of_mem line hother)]

theorem not_isLineBoundary_of_mem_splitLines {line : List Char} (hline : line ∈ splitLines s)
    (hc : c ∈ line) : isLineBoundary c = false := by
  fun_induction splitLines s generalizing line with
  | case1 => cases hline
  | case2 rest ih =>
      rcases List.mem_cons.mp hline with rfl | hlater
      · cases hc
      · exact ih hlater hc
  | case3 head rest _ hboundary ih =>
      rcases List.mem_cons.mp hline with rfl | hlater
      · cases hc
      · exact ih hlater hc
  | case4 head rest _ hboundary ih =>
      rw [Bool.not_eq_true] at hboundary
      cases hrest : splitLines rest with
      | nil =>
          rw [hrest, consHead, List.mem_singleton] at hline
          rw [hline, List.mem_singleton] at hc
          rw [hc]
          exact hboundary
      | cons first others =>
          rw [hrest, consHead] at hline
          rw [hrest] at ih
          rcases List.mem_cons.mp hline with rfl | hlater
          · rcases List.mem_cons.mp hc with rfl | hinner
            · exact hboundary
            · exact ih List.mem_cons_self hinner
          · exact ih (List.mem_cons_of_mem first hlater) hc

end Text
end Ownership
