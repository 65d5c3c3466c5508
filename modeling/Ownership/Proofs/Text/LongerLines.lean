import Ownership.Proofs.Text.Pieces

/-!
# Text put behind a line

More text can be put behind one line of a text, in front of the boundary that ends it.  As long as
it has no boundary itself, this line gets longer and all the others stay as they are.
-/

namespace Ownership
namespace Text

/-- The text with more behind the line of a number; the first line has the number zero. -/
def addToLine (more : List Char) : Nat → List Char → List Char
  | 0, s => s.takeWhile (fun c => !isLineBoundary c) ++
      (more ++ s.dropWhile fun c => !isLineBoundary c)
  | n + 1, '\r' :: '\n' :: rest => '\r' :: '\n' :: addToLine more n rest
  | n + 1, c :: rest =>
      if isLineBoundary c then c :: addToLine more n rest else c :: addToLine more (n + 1) rest
  | _ + 1, [] => []

variable {s rest line more : List Char} {c : Char} {n : Nat}

/-!
# The first line
-/

theorem splitLines_of_boundary (h : isLineBoundary c = true)
    (hpair : c = '\r' → rest.head? ≠ some '\n') :
    splitLines (c :: rest) = [] :: splitLines rest := by
  rw [splitLines]
  · rw [if_pos h]
  · intro behind hc hrest
    rw [hrest] at hpair
    exact hpair hc rfl

theorem splitLines_of_plain (h : isLineBoundary c = false) :
    splitLines (c :: rest) = consHead c (splitLines rest) := by
  have hreturn : isLineBoundary '\r' = true := by decide
  rw [splitLines]
  · rw [if_neg (by rw [h]; exact Bool.false_ne_true)]
  · intro behind hc hrest
    rw [hc, hreturn] at h
    cases h

theorem splitLines_front (hline : ∀ c ∈ line, isLineBoundary c = false)
    (hend : ∀ c ∈ rest.head?, isLineBoundary c = true) (hsome : line ≠ [] ∨ rest ≠ []) :
    splitLines (line ++ rest) = line :: (splitLines rest).tail := by
  induction line with
  | nil =>
      rw [List.nil_append]
      cases rest with
      | nil => simp at hsome
      | cons c rest =>
          have hc := hend c rfl
          rw [splitLines.eq_def]
          split
          · rename_i heq
            cases heq
          · rfl
          · rename_i first others _ heq
            cases heq
            rw [if_pos hc]
            rfl
  | cons c line ih =>
      have hlater := ih fun x hx => hline x (List.mem_cons_of_mem c hx)
      rw [List.cons_append, splitLines_of_plain (hline c List.mem_cons_self)]
      by_cases hnone : line = [] ∧ rest = []
      · rw [hnone.1, hnone.2]
        rfl
      · rw [not_and_or] at hnone
        rw [hlater hnone]
        rfl

theorem boundary_head_dropWhile (s : List Char) :
    ∀ c ∈ (s.dropWhile fun c => !isLineBoundary c).head?, isLineBoundary c = true := by
  intro c hc
  have hstop := List.head?_dropWhile_not (fun c => !isLineBoundary c) s
  rw [hc] at hstop
  simpa using hstop

theorem splitLines_addToLine_zero (hmore : ∀ c ∈ more, isLineBoundary c = false) (hs : s ≠ []) :
    splitLines (addToLine more 0 s) = (splitLines s).modify 0 (· ++ more) := by
  have hwhole := List.takeWhile_append_dropWhile (p := fun c => !isLineBoundary c) (l := s)
  have hfront : ∀ c ∈ s.takeWhile fun c => !isLineBoundary c, isLineBoundary c = false := by
    intro c hc
    simpa using List.mem_takeWhile_imp hc
  have hsome : s.takeWhile (fun c => !isLineBoundary c) ≠ [] ∨
      s.dropWhile (fun c => !isLineBoundary c) ≠ [] := by
    rw [← not_and_or]
    intro hnone
    rw [hnone.1, hnone.2] at hwhole
    exact hs hwhole.symm
  have hlines := splitLines_front hfront (boundary_head_dropWhile s) hsome
  rw [hwhole] at hlines
  have hlonger : ∀ c ∈ s.takeWhile (fun c => !isLineBoundary c) ++ more,
      isLineBoundary c = false := by
    intro c hc
    exact (List.mem_append.mp hc).elim (hfront c) (hmore c)
  rw [addToLine, ← List.append_assoc, splitLines_front hlonger (boundary_head_dropWhile s), hlines]
  · rfl
  · exact hsome.imp_left fun hne hnil => hne (List.append_eq_nil_iff.mp hnil).1

/-!
# Later lines
-/

/-- No line feed comes to stand behind a carriage return. -/
theorem head_addToLine (hmore : ∀ c ∈ more, isLineBoundary c = false)
    (h : s.head? ≠ some '\n') : (addToLine more n s).head? ≠ some '\n' := by
  have hplain : ∀ c, isLineBoundary c = false → c ≠ '\n' := by
    intro c hc heq
    have hfeed : isLineBoundary '\n' = true := by decide
    rw [heq, hfeed] at hc
    cases hc
  fun_cases addToLine more n s with
  | case1 =>
      intro hhead
      rw [List.head?_append] at hhead
      cases hfront : (s.takeWhile fun c => !isLineBoundary c).head? with
      | some c =>
          rw [hfront] at hhead
          cases hhead
          have hc := List.mem_takeWhile_imp (List.mem_of_head? hfront)
          exact hplain '\n' (by simpa using hc) rfl
      | none =>
          rw [hfront, Option.none_or] at hhead
          have hnone := List.head?_eq_none_iff.mp hfront
          have hwhole := List.takeWhile_append_dropWhile (p := fun c => !isLineBoundary c) (l := s)
          rw [hnone, List.nil_append] at hwhole
          rw [hwhole, List.head?_append] at hhead
          cases more with
          | nil => exact h hhead
          | cons c more =>
              cases hhead
              exact hplain '\n' (hmore '\n' List.mem_cons_self) rfl
  | case2 => exact h
  | case3 => exact h
  | case4 => exact h
  | case5 => exact h

theorem consHead_modify {lines : List (List Char)} (hsome : lines ≠ []) :
    consHead c (lines.modify n (· ++ more)) = (consHead c lines).modify n (· ++ more) := by
  cases lines with
  | nil => exact absurd rfl hsome
  | cons first lines =>
      cases n with
      | zero => rfl
      | succ n => rfl

/-- Exactly one line has more behind it. -/
theorem splitLines_addToLine (hmore : ∀ c ∈ more, isLineBoundary c = false)
    (h : n < (splitLines s).length) :
    splitLines (addToLine more n s) = (splitLines s).modify n (· ++ more) := by
  fun_induction addToLine more n s with
  | case1 s =>
      have hsome : s ≠ [] := by
        intro hnil
        rw [hnil] at h
        cases h
      rw [← splitLines_addToLine_zero hmore hsome, addToLine]
  | case2 n rest ih =>
      rw [splitLines] at h ⊢
      rw [splitLines, ih (Nat.lt_of_succ_lt_succ h)]
      rfl
  | case3 n c rest hpair hc ih =>
      have hfeed : c = '\r' → rest.head? ≠ some '\n' := by
        intro hreturn hhead
        rcases List.head?_eq_some_iff.mp hhead with ⟨behind, hbehind⟩
        exact hpair behind hreturn hbehind
      rw [splitLines_of_boundary hc hfeed] at h ⊢
      rw [splitLines_of_boundary hc fun hreturn => head_addToLine hmore (hfeed hreturn),
        ih (Nat.lt_of_succ_lt_succ h)]
      rfl
  | case4 n c rest hpair hc ih =>
      rw [Bool.not_eq_true] at hc
      rw [splitLines_of_plain hc] at h ⊢
      rw [splitLines_of_plain hc]
      cases hlines : splitLines rest with
      | nil =>
          rw [hlines] at h
          cases Nat.lt_of_succ_lt_succ h
      | cons first lines =>
          rw [hlines] at h ih
          rw [ih h, consHead_modify (List.cons_ne_nil first lines)]
  | case5 => cases h

end Text
end Ownership
