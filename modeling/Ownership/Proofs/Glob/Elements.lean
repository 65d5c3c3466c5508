import Ownership.Glob
import Ownership.Proofs.Text.Pieces

/-!
# Elements of a path expression

Which element stands at the front of a pattern shows in its first signs and, behind a bracket or a
brace, in whether it is closed.  A pattern is read by taking elements off its front, and every
pattern is read in exactly one way.
-/

namespace Ownership
namespace Glob

/-!
# What stands at the front
-/

/-- A bracket with this behind it begins no class: it is not closed, or the class is empty. -/
inductive NoClass : List Char → Prop
  | unclosed {rest : List Char} (h : ']' ∉ rest) : NoClass rest
  | empty (rest : List Char) : NoClass (']' :: rest)
  | negatedEmpty (rest : List Char) : NoClass ('!' :: ']' :: rest)

inductive Front : List Char → Element → List Char → Prop
  | folders {rest : List Char} : Front ('*' :: '*' :: '/' :: rest) .folders rest
  | anything {rest : List Char} (h : rest.head? ≠ some '/') :
      Front ('*' :: '*' :: rest) .anything rest
  | withinComponent {rest : List Char} (h : rest.head? ≠ some '*') :
      Front ('*' :: rest) .withinComponent rest
  | oneChar {rest : List Char} : Front ('?' :: rest) .oneChar rest
  | ofClass {body rest : List Char} (hne : body ≠ []) (hmark : body.head? ≠ some '!')
      (hfree : ']' ∉ body) : Front ('[' :: (body ++ ']' :: rest)) (.charClass false body) rest
  | outsideClass {body rest : List Char} (hne : body ≠ []) (hfree : ']' ∉ body) :
      Front ('[' :: '!' :: (body ++ ']' :: rest)) (.charClass true body) rest
  | choice {choices : List (List Char)} {rest : List Char} (hne : choices ≠ [])
      (hcommas : ∀ text ∈ choices, ',' ∉ text) (hfree : '}' ∉ Text.joinWith ',' choices) :
      Front ('{' :: (Text.joinWith ',' choices ++ '}' :: rest)) (.choice choices) rest
  | bracket {rest : List Char} (h : NoClass rest) : Front ('[' :: rest) (.literal '[') rest
  | brace {rest : List Char} (h : '}' ∉ rest) : Front ('{' :: rest) (.literal '{') rest
  | character {c : Char} {rest : List Char} (h : c ∉ ['*', '?', '[', '{']) :
      Front (c :: rest) (.literal c) rest

/-- Elements taken off the front of a pattern one after the other, and what is left then. -/
inductive Reads : List Char → List Element → List Char → Prop
  | nothing (rest : List Char) : Reads rest [] rest
  | element {pattern more rest : List Char} {element : Element} {elements : List Element}
      (hfront : Front pattern element more) (hmore : Reads more elements rest) :
      Reads pattern (element :: elements) rest

variable {pattern rest more inside body : List Char} {element : Element}
  {elements : List Element}

/-!
# Brackets and braces
-/

theorem readClass_of_plain (h : body.head? ≠ some '!') : readClass body = (false, body) := by
  unfold readClass
  split
  · exact absurd rfl h
  · rfl

theorem readElements_of_cut (h : Text.cutAt? ']' rest = some (inside, more)) :
    readElements ('[' :: rest) =
      if (readClass inside).2.isEmpty then .literal '[' :: readElements rest
      else .charClass (readClass inside).1 (readClass inside).2 :: readElements more := by
  rw [readElements]
  split
  · rename_i hnone
    rw [h] at hnone
    cases hnone
  · rename_i hsome
    rw [h] at hsome
    cases hsome
    rfl

theorem readElements_of_noClass (h : NoClass rest) :
    readElements ('[' :: rest) = .literal '[' :: readElements rest := by
  cases h with
  | unclosed hfree =>
      rw [readElements]
      split
      · rfl
      · rename_i hsome
        rw [Text.cutAt?_eq_none_iff.mpr hfree] at hsome
        cases hsome
  | empty behind =>
      have hcut : Text.cutAt? ']' (']' :: behind) = some ([], behind) := rfl
      rw [readElements_of_cut hcut]
      rfl
  | negatedEmpty behind =>
      have hcut : Text.cutAt? ']' ('!' :: ']' :: behind) = some (['!'], behind) := rfl
      rw [readElements_of_cut hcut]
      rfl

theorem noClass_of_cut (hcut : Text.cutAt? ']' rest = some (inside, more))
    (hempty : (readClass inside).2 = []) : NoClass rest := by
  rw [(Text.eq_append_of_cutAt? hcut).1]
  by_cases hmark : inside.head? = some '!'
  · rcases List.head?_eq_some_iff.mp hmark with ⟨body, rfl⟩
    change body = [] at hempty
    rw [hempty]
    exact .negatedEmpty more
  · rw [readClass_of_plain hmark] at hempty
    change inside = [] at hempty
    rw [hempty]
    exact .empty more

theorem front_of_cut (hcut : Text.cutAt? ']' rest = some (inside, more))
    (hsome : (readClass inside).2 ≠ []) :
    Front ('[' :: rest) (.charClass (readClass inside).1 (readClass inside).2) more := by
  rcases Text.eq_append_of_cutAt? hcut with ⟨rfl, hfree⟩
  by_cases hmark : inside.head? = some '!'
  · rcases List.head?_eq_some_iff.mp hmark with ⟨body, rfl⟩
    rw [List.mem_cons, not_or] at hfree
    exact .outsideClass hsome hfree.2
  · rw [readClass_of_plain hmark] at hsome ⊢
    exact .ofClass hsome hmark hfree

theorem readElements_of_choice (h : Text.cutAt? '}' rest = some (inside, more)) :
    readElements ('{' :: rest) = .choice (Text.splitOn ',' inside) :: readElements more := by
  rw [readElements]
  split
  · rename_i hnone
    rw [h] at hnone
    cases hnone
  · rename_i hsome
    rw [h] at hsome
    cases hsome
    rfl

/-!
# Every pattern is read in one way
-/

theorem readElements_of_front (h : Front pattern element rest) :
    readElements pattern = element :: readElements rest := by
  cases h with
  | folders => rw [readElements]
  | anything h =>
      rw [readElements]
      intro behind hrest
      exact h (congrArg List.head? hrest)
  | withinComponent h =>
      rw [readElements]
      · intro behind hrest
        exact h (congrArg List.head? hrest)
      · intro behind hrest
        exact h (congrArg List.head? hrest)
  | oneChar => rw [readElements]
  | ofClass hne hmark hfree =>
      rw [readElements_of_cut (Text.cutAt?_append hfree), readClass_of_plain hmark,
        List.isEmpty_eq_false_iff.mpr hne]
      rfl
  | outsideClass hne hfree =>
      rename_i body
      have hcut : Text.cutAt? ']' ('!' :: (body ++ ']' :: rest)) = some ('!' :: body, rest) := by
        apply Text.cutAt?_append (s := '!' :: body)
        rw [List.mem_cons, not_or]
        exact ⟨by decide, hfree⟩
      rw [readElements_of_cut hcut]
      change (if body.isEmpty then _ else Element.charClass true body :: _) = _
      rw [List.isEmpty_eq_false_iff.mpr hne]
      rfl
  | choice hne hcommas hfree =>
      rw [readElements_of_choice (Text.cutAt?_append hfree), Text.splitOn_joinWith hne hcommas]
  | bracket h => exact readElements_of_noClass h
  | brace h =>
      rw [readElements]
      split
      · rfl
      · rename_i hsome
        rw [Text.cutAt?_eq_none_iff.mpr h] at hsome
        cases hsome
  | character h =>
      rename_i c
      have hplain : c ≠ '*' ∧ c ≠ '?' ∧ c ≠ '[' ∧ c ≠ '{' := by simpa using h
      rw [readElements]
      · intro behind hstar
        exact absurd hstar hplain.1
      · intro behind hstar
        exact absurd hstar hplain.1
      · exact hplain.1
      · exact hplain.2.1
      · exact hplain.2.2.1
      · exact hplain.2.2.2

theorem readElements_of_reads (h : Reads pattern elements rest) :
    readElements pattern = elements ++ readElements rest := by
  induction h with
  | nothing rest => rfl
  | element hfront hmore ih => rw [readElements_of_front hfront, ih, List.cons_append]

theorem reads_readElements (pattern : List Char) : Reads pattern (readElements pattern) [] := by
  fun_induction readElements pattern with
  | case1 => exact .nothing []
  | case2 behind ih => exact .element .folders ih
  | case3 behind hslash ih =>
      apply Reads.element (.anything ?_) ih
      intro hhead
      rcases List.head?_eq_some_iff.mp hhead with ⟨others, hothers⟩
      exact hslash others hothers
  | case4 behind _ hstar ih =>
      apply Reads.element (.withinComponent ?_) ih
      intro hhead
      rcases List.head?_eq_some_iff.mp hhead with ⟨others, hothers⟩
      exact hstar others hothers
  | case5 behind ih => exact .element .oneChar ih
  | case6 behind hcut ih =>
      exact .element (.bracket (.unclosed (Text.cutAt?_eq_none_iff.mp hcut))) ih
  | case7 behind inside after hcut negated body hclass hempty ih =>
      have hbody : (readClass inside).2 = [] := by
        rw [hclass]
        exact List.isEmpty_iff.mp hempty
      exact .element (.bracket (noClass_of_cut hcut hbody)) ih
  | case8 behind inside after hcut negated body hclass hempty ih =>
      have hbody : (readClass inside).2 ≠ [] := by
        rw [hclass]
        intro hnil
        exact hempty (List.isEmpty_iff.mpr hnil)
      have hfront := front_of_cut hcut hbody
      rw [hclass] at hfront
      exact .element hfront ih
  | case9 behind hcut ih => exact .element (.brace (Text.cutAt?_eq_none_iff.mp hcut)) ih
  | case10 behind inside after hcut ih =>
      rcases Text.eq_append_of_cutAt? hcut with ⟨rfl, hfree⟩
      apply Reads.element ?_ ih
      have hjoined := Text.joinWith_splitOn ',' inside
      have hcommas : ∀ text ∈ Text.splitOn ',' inside, ',' ∉ text :=
        fun text htext hmem => (Text.mem_piece htext hmem).2 rfl
      rw [← hjoined] at hfree
      have hfront : Front ('{' :: (Text.joinWith ',' (Text.splitOn ',' inside) ++
          '}' :: after)) (.choice (Text.splitOn ',' inside)) after :=
        .choice (Text.splitOn_ne_nil ',' inside) hcommas hfree
      rw [hjoined] at hfront
      exact hfront
  | case11 c behind _ _ hstar hmark hbracket hbrace ih =>
      refine .element (.character ?_) ih
      simp only [List.mem_cons, List.not_mem_nil, or_false, not_or]
      exact ⟨hstar, hmark, hbracket, hbrace⟩

theorem reads_iff : Reads pattern elements [] ↔ elements = readElements pattern := by
  constructor
  · intro h
    rw [readElements_of_reads h]
    simp [readElements]
  · intro h
    rw [h]
    exact reads_readElements pattern

end Glob
end Ownership
