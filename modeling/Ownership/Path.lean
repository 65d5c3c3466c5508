import Ownership.Text.Blank
import Ownership.Text.Quoted
import Ownership.Text.Split

/-!
# Tree paths

Files and folders of a tree are named by absolute paths such as `/docs/api/index.md`.  `normalize`
brings a path into this form: backslashes become slashes, blanks at the two ends go, and so do
empty components and single dots.  Paths that are not absolute or climb with two dots are
refused.

Every other operation normalizes what it is given once more, also where it is given a normal form
already.  A component may begin or end with blanks, so this is not always without effect.
-/

namespace Ownership

inductive PathDefect
  | notAbsolute
  | climbs
  | outside (folder : String)
deriving DecidableEq, Repr

def PathDefect.message : PathDefect → String
  | .notAbsolute => "path must be absolute"
  | .climbs => "path must not contain '..'"
  | .outside folder => "not located under " ++ folder

structure PathError where
  path : String
  defect : PathDefect
deriving DecidableEq, Repr

namespace Path

def complaint (path reason : String) : String :=
  "invalid path " ++ Text.quoted path ++ ": " ++ reason

end Path

def PathError.message (error : PathError) : String :=
  Path.complaint error.path error.defect.message

namespace Path

/-!
# Components
-/

/-- The text with slashes for backslashes and without blanks at its ends. -/
def unifySlashes (path : List Char) : List Char :=
  Text.trim (path.map fun c => if c = '\\' then '/' else c)

/-- The components that count: neither empty nor a single dot. -/
def components (path : List Char) : List (List Char) :=
  (Text.splitOn '/' path).filter fun part => decide (part ≠ [] ∧ part ≠ ['.'])

def ofComponents (parts : List (List Char)) : List Char :=
  '/' :: Text.joinWith '/' parts

/-- The normal form of a path, by characters. -/
def normalForm (path : List Char) : Except PathDefect (List Char) :=
  let raw := unifySlashes path
  if raw.head? ≠ some '/' then .error .notAbsolute
  else
    let parts := components raw
    if ['.', '.'] ∈ parts then .error .climbs else .ok (ofComponents parts)

def folderPart (path : List Char) : List Char :=
  match (path.reverse.dropWhile (· ≠ '/')).drop 1 with
  | [] => ['/']
  | reversed => reversed.reverse

def lastPart (path : List Char) : List Char :=
  (path.reverse.takeWhile (· ≠ '/')).reverse

/-!
# Operations on paths
-/

def normalize (path : String) : Except PathError String :=
  match normalForm path.toList with
  | .ok form => .ok (String.ofList form)
  | .error defect => .error ⟨path, defect⟩

/-- Folders may be given without the leading slash. -/
def normalizeFolder (path : String) : Except PathError String :=
  if path.toList.head? = some '/' then normalize path else normalize ("/" ++ path)

def parentFolder (path : String) : Except PathError String := do
  let normal ← normalize path
  return String.ofList (folderPart normal.toList)

def fileName (path : String) : String := String.ofList (lastPart path.toList)

def join (folder name : String) : Except PathError String := do
  let base ← normalizeFolder folder
  if base = "/" then normalize ("/" ++ name) else normalize (base ++ "/" ++ name)

def relativeTo (folder path : String) : Except PathError String := do
  let normal ← normalize path
  let base ← normalizeFolder folder
  if base = "/" then return String.ofList (normal.toList.drop 1)
  else
    match Text.dropPrefix? (base.toList ++ ['/']) normal.toList with
    | some rest => return String.ofList rest
    | none => throw ⟨path, .outside base⟩

def treePath (path : String) : Except PathError String := do
  let normal ← normalize path
  return String.ofList (normal.toList.drop 1)

end Path
end Ownership
