/-!
# Lines

A line ends at any boundary of the Unicode line-breaking rules that needs no context: the line
feed, the carriage return, the vertical tab, the form feed, three information separators, the
next-line control and the two separators of the general punctuation block.  A carriage return
followed by a line feed is one boundary.  The boundary belongs to no line, and a text that ends
in a boundary has no empty line behind it.
-/

namespace Ownership
namespace Text

def isLineBoundary (c : Char) : Bool :=
  let n := c.toNat
  (10 ≤ n && n ≤ 13) || (28 ≤ n && n ≤ 30) || n = 0x85 || n = 0x2028 || n = 0x2029

/-- Puts a character in front of the first line, which is opened if there is none. -/
def consHead (c : Char) : List (List Char) → List (List Char)
  | [] => [[c]]
  | line :: rest => (c :: line) :: rest

def splitLines : List Char → List (List Char)
  | [] => []
  | '\r' :: '\n' :: rest => [] :: splitLines rest
  | c :: rest =>
      if isLineBoundary c then [] :: splitLines rest else consHead c (splitLines rest)

def unlines (lines : List (List Char)) : List Char :=
  lines.flatMap fun line => line ++ ['\n']

/-- The text with the two other spellings of a line end replaced by a line feed. -/
def unifyLineEnds : List Char → List Char
  | [] => []
  | '\r' :: '\n' :: rest => '\n' :: unifyLineEnds rest
  | '\r' :: rest => '\n' :: unifyLineEnds rest
  | c :: rest => c :: unifyLineEnds rest

end Text
end Ownership
