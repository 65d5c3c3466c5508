import Ownership.Text.Split

/-!
# Path expressions

A path expression selects paths below a folder.  It is read from left to right as a row of
elements, each of which takes a piece of the path: `**/` crosses any number of folders, another
`**` takes anything, `*` and `?` stay within one component, `[...]` takes one character of a
class, `{a,b}` takes one of the choices, and all else takes itself.  A path matches when the
elements, in order, take all of it.

The line feed is special: `**` does not run across it, while `*`, `?` and the classes take it as
they take any other character.
-/

namespace Ownership
namespace Glob

inductive Element
  /-- Any number of whole folders, `**/`. -/
  | folders
  /-- Any text, `**`. -/
  | anything
  /-- A text within a component, `*`. -/
  | withinComponent
  /-- One character of a component, `?`. -/
  | oneChar
  /-- One character of a class, or with `negated` one outside it. -/
  | charClass (negated : Bool) (body : List Char)
  /-- One of the choices. -/
  | choice (choices : List (List Char))
  /-- The character itself. -/
  | literal (c : Char)
deriving DecidableEq, Repr

/-!
# Reading a pattern
-/

/-- The class between brackets: an exclamation mark in front negates it. -/
def readClass (body : List Char) : Bool × List Char :=
  match body with
  | '!' :: rest => (true, rest)
  | _ => (false, body)

def readElements (pattern : List Char) : List Element :=
  match pattern with
  | [] => []
  | '*' :: '*' :: '/' :: rest => .folders :: readElements rest
  | '*' :: '*' :: rest => .anything :: readElements rest
  | '*' :: rest => .withinComponent :: readElements rest
  | '?' :: rest => .oneChar :: readElements rest
  | '[' :: rest =>
      match _h : Text.cutAt? ']' rest with
      | none => .literal '[' :: readElements rest
      | some (inside, behind) =>
          let (negated, body) := readClass inside
          if body.isEmpty then .literal '[' :: readElements rest
          else .charClass negated body :: readElements behind
  | '{' :: rest =>
      match _h : Text.cutAt? '}' rest with
      | none => .literal '{' :: readElements rest
      | some (inside, behind) => .choice (Text.splitOn ',' inside) :: readElements behind
  | c :: rest => .literal c :: readElements rest
termination_by pattern.length
decreasing_by
  all_goals first
    | (have hlen := Text.length_of_cutAt? _h; simp only [List.length_cons]; omega)
    | (simp only [List.length_cons]; omega)

/-- The elements of a pattern; slashes in front of it are left out. -/
def elements (pattern : String) : List Element :=
  readElements (pattern.toList.dropWhile (· = '/'))

/-!
# Classes

In the body of a class `x-y` is a range, and every other character stands for itself.
-/

def classRanges : List Char → List (Char × Char)
  | low :: '-' :: high :: rest => (low, high) :: classRanges rest
  | c :: rest => (c, c) :: classRanges rest
  | [] => []

def classHas (body : List Char) (c : Char) : Bool :=
  (classRanges body).any fun range => decide (range.1 ≤ c ∧ c ≤ range.2)

def Element.isValid : Element → Bool
  | .charClass _ body => (classRanges body).all fun range => decide (range.1 ≤ range.2)
  | _ => true

/-- A pattern is valid if no range in its classes is reversed. -/
def isValid (pattern : String) : Bool := (elements pattern).all Element.isValid

/-!
# Matching
-/

def restsWhile (takes : Char → Bool) : List Char → List (List Char)
  | [] => [[]]
  | c :: rest => (c :: rest) :: if takes c then restsWhile takes rest else []

def restAfterChar (takes : Char → Bool) : List Char → List (List Char)
  | [] => []
  | c :: rest => if takes c then [rest] else []

def Element.rests : Element → List Char → List (List Char)
  | .folders, path =>
      path :: (restsWhile (· ≠ '\n') path).filterMap fun rest => Text.dropPrefix? ['/'] rest
  | .anything, path => restsWhile (· ≠ '\n') path
  | .withinComponent, path => restsWhile (· ≠ '/') path
  | .oneChar, path => restAfterChar (· ≠ '/') path
  | .charClass negated body, path => restAfterChar (fun c => classHas body c != negated) path
  | .choice choices, path => choices.filterMap fun text => Text.dropPrefix? text path
  | .literal c, path => restAfterChar (· = c) path

def matchElements : List Element → List Char → Bool
  | [], path => path.isEmpty
  | element :: others, path => (element.rests path).any (matchElements others)

/-- Whether a pattern selects a path; an invalid pattern selects none. -/
def selects (pattern path : String) : Bool :=
  isValid pattern && matchElements (elements pattern) path.toList

end Glob
end Ownership
