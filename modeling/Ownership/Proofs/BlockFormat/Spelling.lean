import Mathlib.Data.List.TakeWhile
import Ownership.BlockFormat.Reader
import Ownership.BlockFormat.Writer

/-!
# How tokens are spelled

A piece of text spells a row of tokens if the scan of any text that begins with the piece finds
these tokens first and then goes on behind the piece.  The line on which a piece begins shows in
the numbers of its tokens only, so a spelling leaves the numbers out.  Spellings are put together
from left to right, from what the scan does at a mark, a quoted text and a word, and the text
between quotation marks is spelled by its escaped form.
-/

namespace Ownership

/-!
# Blanks and letters
-/

namespace Text

def blankPoints : List Nat := [
  9, 10, 11, 12, 13, 28, 29, 30, 31, 32, 0x85, 0xA0, 0x1680, 0x2000, 0x2001, 0x2002, 0x2003, 0x2004,
  0x2005, 0x2006, 0x2007, 0x2008, 0x2009, 0x200A, 0x2028, 0x2029, 0x202F, 0x205F, 0x3000]

theorem not_isAlphanumeric_blankPoints :
    (blankPoints.all fun n => !isAlphanumeric (Char.ofNat n)) = true := by decide +kernel

theorem not_isAlphanumeric_of_isBlank {c : Char} (h : isBlank c = true) :
    isAlphanumeric c = false := by
  have hpoint : c.toNat ∈ blankPoints := by
    simp only [isBlank, Bool.or_eq_true, Bool.and_eq_true, decide_eq_true_eq] at h
    simp only [blankPoints, List.mem_cons, List.not_mem_nil, or_false]
    omega
  have hletter := List.all_eq_true.mp not_isAlphanumeric_blankPoints c.toNat hpoint
  rw [Char.ofNat_toNat, Bool.not_eq_true'] at hletter
  exact hletter

end Text

namespace BlockFormat

/-!
# Quoted texts
-/

theorem readText?_escapeChar (c : Char) (s : List Char) :
    readText? (escapeChar c ++ s) = (readText? s).map fun (text, rest) => (c :: text, rest) := by
  unfold escapeChar
  split
  · rename_i hbackslash
    rw [hbackslash]
    simp [readText?, unescape]
  split
  · rename_i hmark
    rw [hmark]
    simp [readText?, unescape]
  split
  · rename_i hfeed
    rw [hfeed]
    simp [readText?, unescape]
  split
  · rename_i htab
    rw [htab]
    simp [readText?, unescape]
  split
  · rename_i hreturn
    rw [hreturn]
    simp [readText?, unescape]
  · -- every other character stands for itself
    simp_all [readText?]

theorem readText?_escaped (s rest : List Char) :
    readText? (s.flatMap escapeChar ++ '"' :: rest) = some (s, rest) := by
  induction s with
  | nil => rfl
  | cons c s ih => rw [List.flatMap_cons, List.append_assoc, readText?_escapeChar, ih]; rfl

/-!
# The front of a text
-/

section

variable {line : Nat} {rest behind text word : List Char} {c : Char}

theorem open_of_isWordChar (h : isWordChar c = true) :
    Text.isBlank c = false ∧ c ≠ '#' ∧ isMark c = false ∧ c ≠ '"' := by
  have hmarks : isWordChar '#' = false ∧ isWordChar '{' = false ∧ isWordChar '}' = false ∧
      isWordChar ':' = false ∧ isWordChar '"' = false := by decide +kernel
  have hblank : Text.isBlank c = false := by
    rw [← Bool.not_eq_true]
    intro hblank
    rw [isWordChar, Text.not_isAlphanumeric_of_isBlank hblank, Bool.false_or,
      decide_eq_true_eq] at h
    rw [h] at hblank
    exact absurd hblank (by decide)
  have hother : ∀ {d : Char}, isWordChar d = false → c ≠ d := by
    intro d hd hc
    rw [hc, hd] at h
    cases h
  rcases hmarks with ⟨hcomment, hopen, hclose, hcolon, hquote⟩
  refine ⟨hblank, hother hcomment, ?_, hother hquote⟩
  simp [isMark, hother hopen, hother hclose, hother hcolon]

/-- A front comes off whole where it cannot go on. -/
theorem takeWhile_dropWhile_of_front {p : Char → Bool} {front : List Char}
    (hfront : ∀ c ∈ front, p c = true) (hend : ∀ c ∈ rest.head?, p c = false) :
    (front ++ rest).takeWhile p = front ∧ (front ++ rest).dropWhile p = rest := by
  rw [List.takeWhile_append_of_pos hfront, List.dropWhile_append_of_pos hfront]
  cases rest with
  | nil => exact ⟨List.append_nil front, rfl⟩
  | cons c rest =>
      have hc : ¬ p c = true := by
        rw [hend c rfl]
        exact Bool.false_ne_true
      rw [List.takeWhile_cons_of_neg hc, List.dropWhile_cons_of_neg hc]
      exact ⟨List.append_nil front, rfl⟩

theorem tokensFrom_mark (hmark : isMark c = true) : tokensFrom line (c :: rest) =
    (tokensFrom line rest).map ({ kind := .mark, value := c.toString, line } :: ·) := by
  have hopen : c ≠ '\n' ∧ Text.isBlank c = false ∧ c ≠ '#' := by
    simp only [isMark, Bool.or_eq_true, decide_eq_true_eq] at hmark
    rcases hmark with (rfl | rfl) | rfl
    all_goals decide
  rw [tokensFrom, if_neg hopen.1, hopen.2.1, if_neg Bool.false_ne_true, if_neg hopen.2.2,
    if_pos hmark]

theorem tokensFrom_text (hread : readText? rest = some (text, behind)) :
    tokensFrom line ('"' :: rest) = (tokensFrom line behind).map
      ({ kind := .text, value := String.ofList text, line } :: ·) := by
  rw [tokensFrom, if_neg (by decide), if_neg (by decide), if_neg (by decide), if_neg (by decide),
    if_pos rfl]
  split
  · rename_i hnone
    rw [hread] at hnone
    cases hnone
  · rename_i hsame
    rw [hread] at hsame
    cases hsame
    rfl

theorem tokensFrom_word (hne : word ≠ []) (hletters : ∀ c ∈ word, isWordChar c = true)
    (hend : ∀ c ∈ rest.head?, isWordChar c = false) : tokensFrom line (word ++ rest) =
      (tokensFrom line rest).map ({ kind := .word, value := String.ofList word, line } :: ·) := by
  cases word with
  | nil => exact absurd rfl hne
  | cons first letters =>
      rw [List.forall_mem_cons] at hletters
      rcases hletters with ⟨hfirst, hinner⟩
      rcases open_of_isWordChar hfirst with ⟨hblank, hcomment, hmark, hquote⟩
      have hfeed : first ≠ '\n' := by
        intro heq
        rw [heq] at hblank
        cases hblank
      rcases takeWhile_dropWhile_of_front hinner hend with ⟨htake, hdrop⟩
      rw [List.cons_append, tokensFrom, if_neg hfeed, hblank, if_neg Bool.false_ne_true,
        if_neg hcomment, hmark, if_neg Bool.false_ne_true, if_neg hquote, if_pos hfirst, htake,
        hdrop]

end

/-!
# Spellings
-/

abbrev Sign := TokenKind × String

def Token.sign (token : Token) : Sign := (token.kind, token.value)

/-- The scan of a text that begins with `s` finds the signs first and goes on behind `s`. -/
def Spells (s : List Char) (signs : List Sign) : Prop :=
  ∀ (line : Nat) (rest : List Char), ∃ (found : List Token) (later : Nat),
    found.map Token.sign = signs ∧
      tokensFrom line (s ++ rest) = (tokensFrom later rest).map (found ++ ·)

variable {s t : List Char} {signs others : List Sign} {c : Char}

theorem spells_nil : Spells [] [] := by
  intro line rest
  refine ⟨[], line, rfl, ?_⟩
  cases h : tokensFrom line rest with
  | error e => simp [Except.map, h]
  | ok found => simp [Except.map, h]

theorem Spells.append (hs : Spells s signs) (ht : Spells t others) :
    Spells (s ++ t) (signs ++ others) := by
  intro line rest
  rcases hs line (t ++ rest) with ⟨found, later, hfound, hscan⟩
  rcases ht later rest with ⟨more, last, hmore, hrest⟩
  refine ⟨found ++ more, last, ?_, ?_⟩
  · rw [List.map_append, hfound, hmore]
  · rw [List.append_assoc, hscan, hrest]
    cases tokensFrom last rest with
    | error e => rfl
    | ok tail => simp [Except.map]

theorem spells_flatMap {α : Type} {spell : α → List Char} {sign : α → List Sign} (xs : List α)
    (h : ∀ x ∈ xs, Spells (spell x) (sign x)) : Spells (xs.flatMap spell) (xs.flatMap sign) := by
  induction xs with
  | nil => exact spells_nil
  | cons x xs ih =>
      rw [List.flatMap_cons, List.flatMap_cons]
      apply Spells.append
      · exact h x List.mem_cons_self
      · exact ih fun y hy => h y (List.mem_cons_of_mem x hy)

theorem spells_lineFeed : Spells ['\n'] [] := by
  intro line rest
  rcases spells_nil (line + 1) rest with ⟨found, later, hfound, hscan⟩
  refine ⟨found, later, hfound, ?_⟩
  rw [← hscan, List.singleton_append, List.nil_append, tokensFrom]
  rfl

theorem spells_blank (hfeed : c ≠ '\n') (hblank : Text.isBlank c = true) : Spells [c] [] := by
  intro line rest
  rcases spells_nil line rest with ⟨found, later, hfound, hscan⟩
  refine ⟨found, later, hfound, ?_⟩
  rw [← hscan, List.singleton_append, List.nil_append, tokensFrom, if_neg hfeed, if_pos hblank]

theorem spells_space : Spells [' '] [] := spells_blank (by decide) (by decide)

theorem spells_mark (hmark : isMark c = true) : Spells [c] [(.mark, c.toString)] := by
  intro line rest
  exact ⟨[{ kind := .mark, value := c.toString, line }], line, rfl, tokensFrom_mark hmark⟩

theorem spells_text (value : String) : Spells (quoteText value).toList [(.text, value)] := by
  intro line rest
  refine ⟨[{ kind := .text, value, line }], line, rfl, ?_⟩
  have hquoted : (quoteText value).toList ++ rest =
      '"' :: (value.toList.flatMap escapeChar ++ '"' :: rest) := by
    simp [quoteText]
  rw [hquoted, tokensFrom_text (readText?_escaped value.toList rest), String.ofList_toList]
  rfl

theorem spells_word (word : String) (hne : word ≠ "")
    (hletters : word.toList.all isWordChar = true) (hend : isWordChar c = false)
    (hs : Spells (c :: s) signs) : Spells (word.toList ++ c :: s) ((.word, word) :: signs) := by
  intro line rest
  rcases hs line rest with ⟨found, later, hfound, hscan⟩
  have hnil : word.toList ≠ [] := by
    intro hnil
    exact hne (String.toList_eq_nil_iff.mp hnil)
  have hstop : ∀ d ∈ (c :: s ++ rest).head?, isWordChar d = false := by
    intro d hd
    cases hd
    exact hend
  refine ⟨{ kind := .word, value := word, line } :: found, later, ?_, ?_⟩
  · rw [List.map_cons, hfound]
    rfl
  · rw [List.append_assoc, tokensFrom_word hnil (List.all_eq_true.mp hletters) hstop, hscan,
      String.ofList_toList]
    cases tokensFrom later rest with
    | error e => rfl
    | ok tail => rfl

end BlockFormat
end Ownership
