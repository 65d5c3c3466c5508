import Ownership.Proofs.BlockFormat.Spelling
import Ownership.Proofs.Memory

/-!
# Texts that come apart into tokens

A text is scanned by what stands at its front: blanks and comments, which are passed over, marks,
quoted texts and words, each of which is one token.  A word is as long as possible, a quoted text
ends at its first plain quotation mark, and no character but a letter begins a word, so there is at
most one way to scan a text.
-/

namespace Ownership

namespace BlockFormat

/-!
# Ways to scan a text
-/

/-- What stands between two quotation marks, and the text that it means. -/
inductive Quoted : List Char → List Char → Prop
  | nothing : Quoted [] []
  | plain {c : Char} {body text : List Char} (hc : c ∉ ['\n', '"', '\\']) (h : Quoted body text) :
      Quoted (c :: body) (c :: text)
  | escaped {c : Char} {body text : List Char} (h : Quoted body text) :
      Quoted ('\\' :: c :: body) (unescape c :: text)

/-- The tokens of a text from left to right, without the numbers of their lines. -/
inductive Scans : List Char → List Sign → Prop
  | done : Scans [] []
  | blank {c : Char} {rest : List Char} {signs : List Sign} (hblank : Text.isBlank c = true)
      (h : Scans rest signs) : Scans (c :: rest) signs
  | comment {text rest : List Char} {signs : List Sign} (hline : '\n' ∉ text)
      (hend : ∀ c ∈ rest.head?, c = '\n') (h : Scans rest signs) :
      Scans ('#' :: (text ++ rest)) signs
  | mark {c : Char} {rest : List Char} {signs : List Sign} (hmark : isMark c = true)
      (h : Scans rest signs) : Scans (c :: rest) ((.mark, c.toString) :: signs)
  | text {body text rest : List Char} {signs : List Sign} (hbody : Quoted body text)
      (h : Scans rest signs) :
      Scans ('"' :: (body ++ '"' :: rest)) ((.text, String.ofList text) :: signs)
  | word {word rest : List Char} {signs : List Sign} (hne : word ≠ [])
      (hletters : ∀ c ∈ word, isWordChar c = true) (hend : ∀ c ∈ rest.head?, isWordChar c = false)
      (h : Scans rest signs) : Scans (word ++ rest) ((.word, String.ofList word) :: signs)

variable {s text body rest : List Char} {signs : List Sign} {found : List Token} {line : Nat}
  {c : Char}

/-!
# Quoted texts
-/

theorem readText?_of_quoted (h : Quoted body text) :
    readText? (body ++ '"' :: rest) = some (text, rest) := by
  induction h with
  | nothing => rfl
  | plain hc h ih =>
      simp only [List.mem_cons, List.not_mem_nil, or_false, not_or] at hc
      rw [List.cons_append, readText?, ih]
      · rfl
      · exact hc.1
      · exact hc.2.1
      · intro _ _ hslash
        exact absurd hslash hc.2.2
  | escaped h ih =>
      rw [List.cons_append, List.cons_append, readText?, ih]
      rfl

theorem quoted_of_readText? (h : readText? s = some (text, rest)) :
    ∃ body, s = body ++ '"' :: rest ∧ Quoted body text := by
  fun_induction readText? s generalizing text rest with
  | case1 => cases h
  | case2 => cases h
  | case3 behind =>
      cases h
      exact ⟨[], rfl, .nothing⟩
  | case4 c behind ih =>
      rcases Option.map_eq_some_iff.mp h with ⟨⟨inner, last⟩, hread, hsame⟩
      cases hsame
      rcases ih hread with ⟨body, rfl, hbody⟩
      exact ⟨'\\' :: c :: body, rfl, .escaped hbody⟩
  | case5 c behind hline hmark hslash ih =>
      rcases Option.map_eq_some_iff.mp h with ⟨⟨inner, last⟩, hread, hsame⟩
      cases hsame
      have hplain : c ≠ '\\' := by
        intro hc
        -- a backslash at the very end leaves no quotation mark behind it
        cases behind with
        | nil => cases hread
        | cons next behind => exact hslash next behind hc rfl
      rcases ih hread with ⟨body, rfl, hbody⟩
      refine ⟨c :: body, rfl, .plain ?_ hbody⟩
      simp only [List.mem_cons, List.not_mem_nil, or_false, not_or]
      exact ⟨hline, hmark, hplain⟩

/-!
# The scan
-/

theorem not_of_head_dropWhile {p : Char → Bool} (h : c ∈ (s.dropWhile p).head?) : p c = false := by
  have hfirst := List.head?_dropWhile_not p s
  rw [Option.mem_def.mp h] at hfirst
  exact hfirst

theorem scans_of_tokensFrom (h : tokensFrom line s = .ok found) :
    Scans s (found.map Token.sign) := by
  fun_induction tokensFrom line s generalizing found with
  | case1 =>
      cases h
      exact .done
  | case2 line rest ih => exact .blank (by decide) (ih h)
  | case3 line c rest hfeed hblank ih => exact .blank hblank (ih h)
  | case4 line rest hfeed hblank ih =>
      have hscan : Scans ('#' :: (rest.takeWhile (· ≠ '\n') ++ rest.dropWhile (· ≠ '\n')))
          (found.map Token.sign) := by
        refine .comment ?_ ?_ (ih h)
        · intro hmem
          have hplain := List.mem_takeWhile_imp hmem
          simp at hplain
        · intro c hc
          have hstop := not_of_head_dropWhile hc
          simpa using hstop
      rw [List.takeWhile_append_dropWhile] at hscan
      exact hscan
  | case5 line c rest hfeed hblank hcomment hmark ih =>
      rcases except_map_eq_ok.mp h with ⟨others, hothers, rfl⟩
      exact .mark hmark (ih hothers)
  | case6 => cases h
  | case7 line rest text behind hread hfeed hblank hcomment hmark ih =>
      rcases except_map_eq_ok.mp h with ⟨others, hothers, rfl⟩
      rcases quoted_of_readText? hread with ⟨body, rfl, hbody⟩
      exact .text hbody (ih hothers)
  | case8 line c rest hfeed hblank hcomment hmark hquote hletter word =>
      rename_i ih
      rcases except_map_eq_ok.mp h with ⟨others, hothers, rfl⟩
      have hscan : Scans (c :: rest.takeWhile isWordChar ++ rest.dropWhile isWordChar)
          ((.word, String.ofList (c :: rest.takeWhile isWordChar)) :: others.map Token.sign) := by
        refine .word (List.cons_ne_nil _ _) ?_ (fun d hd => not_of_head_dropWhile hd) (ih hothers)
        intro d hd
        rcases List.mem_cons.mp hd with rfl | hd
        · exact hletter
        · exact List.mem_takeWhile_imp hd
      rw [List.cons_append, List.takeWhile_append_dropWhile] at hscan
      exact hscan
  | case9 => cases h

theorem tokensFrom_of_scans (h : Scans s signs) (line : Nat) :
    ∃ found, tokensFrom line s = .ok found ∧ found.map Token.sign = signs := by
  induction h generalizing line with
  | done => exact ⟨[], by rw [tokensFrom], rfl⟩
  | @blank c rest signs hblank h ih =>
      rw [tokensFrom, if_pos hblank]
      split
      · exact ih (line + 1)
      · exact ih line
  | @comment text rest signs hline hend h ih =>
      have hfront : ∀ c ∈ text, decide (c ≠ '\n') = true := by
        intro c hc
        rw [decide_eq_true_eq]
        intro hfeed
        rw [hfeed] at hc
        exact hline hc
      have hstop : ∀ c ∈ rest.head?, decide (c ≠ '\n') = false := by
        intro c hc
        rw [hend c hc]
        rfl
      rw [tokensFrom, if_neg (by decide), if_neg (by decide), if_pos rfl,
        (takeWhile_dropWhile_of_front hfront hstop).2]
      exact ih line
  | @mark c rest signs hmark h ih =>
      rcases ih line with ⟨others, hothers, hsigns⟩
      refine ⟨{ kind := .mark, value := c.toString, line } :: others, ?_, ?_⟩
      · rw [tokensFrom_mark hmark, hothers]
        rfl
      · rw [List.map_cons, hsigns]
        rfl
  | @text body text rest signs hbody h ih =>
      rcases ih line with ⟨others, hothers, hsigns⟩
      refine ⟨{ kind := .text, value := String.ofList text, line } :: others, ?_, ?_⟩
      · rw [tokensFrom_text (readText?_of_quoted hbody), hothers]
        rfl
      · rw [List.map_cons, hsigns]
        rfl
  | @word word rest signs hne hletters hend h ih =>
      rcases ih line with ⟨others, hothers, hsigns⟩
      refine ⟨{ kind := .word, value := String.ofList word, line } :: others, ?_, ?_⟩
      · rw [tokensFrom_word hne hletters hend, hothers]
        rfl
      · rw [List.map_cons, hsigns]
        rfl

end BlockFormat
end Ownership
