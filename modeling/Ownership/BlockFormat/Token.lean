import Ownership.Text.Alphanumeric
import Ownership.Text.Blank

/-!
# Tokens of the block format

A text of the block format is a row of words, quoted texts, braces and colons.  Blanks and comments
from `#` to the end of the line stand between them.  Every token carries the number of the line
on which it begins; line feeds that stand in the open are what counts the lines.
-/

namespace Ownership
namespace BlockFormat

inductive TokenKind
  | word
  | text
  | mark
deriving DecidableEq, Repr

def TokenKind.name : TokenKind → String
  | .word => "ident"
  | .text => "string"
  | .mark => "punct"

structure Token where
  kind : TokenKind
  value : String
  line : Nat
deriving DecidableEq, Repr

inductive TokenError
  | unterminated (line : Nat)
  | unexpected (line : Nat) (c : Char)
deriving DecidableEq, Repr

/-!
# Quoted texts

A backslash stands for the character behind it; three letters behind it have a meaning of their
own.  A quoted text ends on its line.
-/

def unescape (c : Char) : Char :=
  if c = 'n' then '\n' else if c = 't' then '\t' else if c = 'r' then '\r' else c

/-- Reads up to the closing quotation mark; the opening one is gone. -/
def readText? : List Char → Option (List Char × List Char)
  | [] => none
  | '\n' :: _ => none
  | '"' :: rest => some ([], rest)
  | '\\' :: c :: rest => (readText? rest).map fun (text, rest) => (unescape c :: text, rest)
  | c :: rest => (readText? rest).map fun (text, rest) => (c :: text, rest)

theorem length_of_readText? {s text rest : List Char} (h : readText? s = some (text, rest)) :
    rest.length < s.length := by
  fun_induction readText? s generalizing text rest with
  | case1 => cases h
  | case2 => cases h
  | case3 behind =>
      simp only [Option.some.injEq, Prod.mk.injEq] at h
      simp [h.2]
  | case4 c behind ih =>
      simp only [Option.map_eq_some_iff, Prod.mk.injEq, Prod.exists] at h
      obtain ⟨first, last, hread, -, rfl⟩ := h
      have := ih hread
      simp only [List.length_cons]
      omega
  | case5 c behind _ _ _ ih =>
      simp only [Option.map_eq_some_iff, Prod.mk.injEq, Prod.exists] at h
      obtain ⟨first, last, hread, -, rfl⟩ := h
      have := ih hread
      simp only [List.length_cons]
      omega

/-!
# The tokens of a text
-/

def isWordChar (c : Char) : Bool := Text.isAlphanumeric c || c = '_'

def isMark (c : Char) : Bool := c = '{' || c = '}' || c = ':'

def tokensFrom (line : Nat) (s : List Char) : Except TokenError (List Token) :=
  match s with
  | [] => .ok []
  | c :: rest =>
      if c = '\n' then tokensFrom (line + 1) rest
      else if Text.isBlank c then tokensFrom line rest
      else if c = '#' then tokensFrom line (rest.dropWhile (· ≠ '\n'))
      else if isMark c then
        (tokensFrom line rest).map ({ kind := .mark, value := c.toString, line } :: ·)
      else if c = '"' then
        match _h : readText? rest with
        | none => .error (.unterminated line)
        | some (text, behind) =>
            (tokensFrom line behind).map
              ({ kind := .text, value := String.ofList text, line } :: ·)
      else if isWordChar c then
        let word := c :: rest.takeWhile isWordChar
        (tokensFrom line (rest.dropWhile isWordChar)).map
          ({ kind := .word, value := String.ofList word, line } :: ·)
      else .error (.unexpected line c)
termination_by s.length
decreasing_by
  · exact Nat.lt_succ_self _
  · exact Nat.lt_succ_self _
  · exact Nat.lt_succ_of_le (List.dropWhile_sublist _).length_le
  · exact Nat.lt_succ_self _
  · exact Nat.lt_succ_of_lt (length_of_readText? _h)
  · exact Nat.lt_succ_of_le (List.dropWhile_sublist _).length_le

def tokens (text : String) : Except TokenError (List Token) := tokensFrom 1 text.toList

end BlockFormat
end Ownership
