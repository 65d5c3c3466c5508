import Ownership.Text.Blank
import Ownership.Text.LowerCase
import Ownership.Text.Split

/-!
# Marked-up text

What is shown on a console is written with tags in square brackets, which open and close styles.
Backslashes in front of a tag take away its meaning: an odd one makes it plain text, and of the
others every two stand for one.  Text from elsewhere is escaped before it is put between tags.
Rendering leaves out the tags, since no styles are shown here.
-/

namespace Ownership
namespace Markup

/-!
# Tags

A tag begins with a small letter or one of three signs, and ends at the next closing bracket unless
another tag could begin before.
-/

def isTagStart (c : Char) : Bool := ('a' ≤ c && c ≤ 'z') || c = '#' || c = '/' || c = '@'

def untilClosed : List Char → Option (List Char × List Char)
  | [] => none
  | ']' :: rest => some ([], rest)
  | '[' :: _ => none
  | c :: rest => (untilClosed rest).map fun (inner, behind) => (c :: inner, behind)

def tag? : List Char → Option (List Char × List Char)
  | '[' :: c :: rest =>
      if isTagStart c then (untilClosed rest).map fun (inner, behind) => (c :: inner, behind)
      else none
  | _ => none

theorem length_of_untilClosed {s inner behind : List Char}
    (h : untilClosed s = some (inner, behind)) : behind.length < s.length := by
  induction s generalizing inner with
  | nil => simp [untilClosed] at h
  | cons c rest ih =>
      unfold untilClosed at h
      split at h
      · simp_all
      · simp_all
      · simp at h
      · rename_i heq
        obtain ⟨rfl, rfl⟩ := List.cons.inj heq
        obtain ⟨⟨i, b⟩, hi, hb⟩ := Option.map_eq_some_iff.1 h
        obtain ⟨-, rfl⟩ := Prod.mk.inj hb
        exact Nat.lt_succ_of_lt (ih hi)

theorem length_of_tag? {s inner behind : List Char} (h : tag? s = some (inner, behind)) :
    behind.length < s.length := by
  unfold tag? at h
  split at h
  · rename_i c rest
    split at h
    · obtain ⟨⟨i, b⟩, hi, hb⟩ := Option.map_eq_some_iff.1 h
      obtain ⟨-, rfl⟩ := Prod.mk.inj hb
      have := length_of_untilClosed hi
      simp only [List.length_cons]
      omega
    · simp at h
  · simp at h

/-!
# Escaping
-/

def backslashes (count : Nat) : List Char := List.replicate count '\\'

/-- Escapes the tags of a text that follows a number of backslashes. -/
def escapeTags (slashes : Nat) : List Char → List Char
  | [] => backslashes slashes
  | '\\' :: rest => escapeTags (slashes + 1) rest
  | c :: rest =>
      let before := if (tag? (c :: rest)).isSome then 2 * slashes + 1 else slashes
      backslashes before ++ c :: escapeTags 0 rest

/-- A lone backslash at the end is doubled, because a tag may follow. -/
def closeEnd (s : List Char) : List Char :=
  match s.reverse with
  | ['\\'] => s ++ ['\\']
  | '\\' :: c :: _ => if c = '\\' then s else s ++ ['\\']
  | _ => s

def escape (text : String) : String := String.ofList (closeEnd (escapeTags 0 text.toList))

/-!
# Splitting
-/

inductive Piece
  | plain (text : List Char)
  /-- The inside of a tag and the position of its bracket. -/
  | tag (inner : List Char) (position : Nat)
deriving DecidableEq, Repr

/-- The pieces for a tag behind a number of backslashes: half of them, and the tag with its meaning
or without. -/
def taggedPieces (slashes : Nat) (inner : List Char) (position : Nat) : List Piece :=
  let before := if slashes < 2 then [] else [.plain (backslashes (slashes / 2))]
  before ++
    if slashes % 2 = 0 then [.tag inner position] else [.plain ('[' :: inner ++ [']'])]

def plainPiece (text : List Char) : List Piece := if text.isEmpty then [] else [.plain text]

/-- Splits a text at its tags.  It stands at a position, behind some plain text and then a number of
backslashes. -/
def split (plain : List Char) (slashes position : Nat) (s : List Char) : List Piece :=
  match s with
  | [] => plainPiece (plain ++ backslashes slashes)
  | '\\' :: rest => split plain (slashes + 1) (position + 1) rest
  | c :: rest =>
      match _h : tag? (c :: rest) with
      | some (inner, behind) =>
          plainPiece plain ++ taggedPieces slashes inner position ++
            split [] 0 (position + ((c :: rest).length - behind.length)) behind
      | none => split (plain ++ backslashes slashes ++ [c]) 0 (position + 1) rest
termination_by s.length
decreasing_by
  · simp
  · exact length_of_tag? _h
  · simp

def pieces (text : String) : List Piece := split [] 0 0 text.toList

/-!
# Rendering

Opened styles are kept on a stack.  A closing tag closes the latest style of its name, or the latest
of all if it has no name.
-/

inductive Error
  /-- A closing tag for a style that is not open. -/
  | notOpen (inner : String) (position : Nat)
  /-- A closing tag without a name where no style is open. -/
  | nothingOpen (position : Nat)
deriving DecidableEq, Repr

def Error.message : Error → String
  | .notOpen inner position =>
      "closing tag '[" ++ inner ++ "]' at position " ++ toString position ++
        " doesn't match any open tag"
  | .nothingOpen position =>
      "closing tag '[/]' at position " ++ toString position ++ " has nothing to close"

def tagName (inner : List Char) : List Char := inner.takeWhile (· ≠ '=')

def styleName (name : List Char) : List Char := Text.lower (Text.trim name)

/-- The open styles after a tag, the latest first. -/
def openStyles (styles : List (List Char)) (inner : List Char) (position : Nat) :
    Except Error (List (List Char)) :=
  match tagName inner with
  | '/' :: name =>
      let name := Text.trim name
      if name.isEmpty then
        match styles with
        | [] => .error (.nothingOpen position)
        | _ :: rest => .ok rest
      else if styleName name ∈ styles then .ok (styles.erase (styleName name))
      else .error (.notOpen (String.ofList inner) position)
  | name => .ok (styleName name :: styles)

/-- A backslash in front of an opening bracket is dropped in plain text too. -/
def dropBracketEscapes : List Char → List Char
  | '\\' :: '[' :: rest => '[' :: dropBracketEscapes rest
  | c :: rest => c :: dropBracketEscapes rest
  | [] => []

def plainTexts (styles : List (List Char)) : List Piece → Except Error (List (List Char))
  | [] => .ok []
  | .plain text :: rest => do
      let texts ← plainTexts styles rest
      return dropBracketEscapes text :: texts
  | .tag inner position :: rest => do
      let styles ← openStyles styles inner position
      plainTexts styles rest

def render (text : String) : Except Error (List (List Char)) := plainTexts [] (pieces text)

end Markup
end Ownership
