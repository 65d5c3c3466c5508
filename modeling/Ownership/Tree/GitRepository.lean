import Ownership.Document.Records
import Ownership.Text.Utf8
import Ownership.Tree
import Ownership.Tree.HostFiles

/-!
# Trees in git repositories

A tree whose projects are local git repositories.  Everything is asked of the git program, whose
answers are an argument here: what a command line answers is a function of the command line.  Each
operation keeps note of the command lines it ran.
-/

namespace Ownership

inductive GitOutcome
  /-- The program ran: its exit code, and what it wrote as output and as complaint. -/
  | ended (code : Int) (output complaint : Content)
  | notStarted (reason : String)
deriving DecidableEq, Repr

structure GitTree where
  /-- The repositories of the projects. -/
  repositories : Table String HostPath
  run : List String → GitOutcome

/-- An operation with the command lines it has run so far. -/
abbrev GitAction := ExceptT Failure (StateM (List (List String)))

namespace GitTree

/-!
# Running git
-/

def command (git : GitTree) (project : String) (args : List String) :
    GitAction (Int × Content × Content) := do
  match git.repositories.get? project with
  | none => throw (.tree (.noRepository project))
  | some repository =>
      let line := ["git", "-C", repository.toString] ++ args
      modify fun (lines : List (List String)) => lines ++ [line]
      match git.run line with
      | .notStarted reason => throw (.tree (.gitNotStarted reason))
      | .ended code output complaint => return (code, output, complaint)

def output (git : GitTree) (project : String) (args : List String) : GitAction Content := do
  let (code, output, complaint) ← git.command project args
  if code = 0 then return output
  else
    let reason := String.ofList (Text.trim (Text.Utf8.decodeLossy complaint))
    throw (.tree (.gitFailed args reason))

/-!
# Branches
-/

def refsWord : String := "refs/"

def fullRef (branch : String) : String :=
  match Text.dropPrefix? refsWord.toList branch.toList with
  | some _ => branch
  | none => "refs/heads/" ++ branch

def plainText (bytes : Content) : Except Failure (List Char) :=
  if bytes.all (· < 0x80) then .ok (bytes.map fun byte => Char.ofNat byte.toNat)
  else .error .malformedText

def branchHead (git : GitTree) (project branch : String) : GitAction (Option String) := do
  let (code, output, _) ← git.command project
    ["rev-parse", "--verify", "--quiet", fullRef branch ++ "^{commit}"]
  if code ≠ 0 then return none
  else return some (String.ofList (Text.trim (← liftExcept (plainText output))))

def containsRevision (git : GitTree) (project branch revision : String) : GitAction Bool := do
  match ← git.branchHead project branch with
  | none => return false
  | some head =>
      let (code, _) ← git.command project ["merge-base", "--is-ancestor", revision, head]
      return code = 0

/-!
# Files
-/

def isPlainBlank (byte : UInt8) : Bool := (9 ≤ byte && byte ≤ 13) || byte = 32

/-- The mode of a directory at the front of a listing. -/
def directoryMode : Content := Text.Utf8.encode "040000"

def contentOf (git : GitTree) (project revision path : String) : GitAction (Option Content) := do
  let relative ← liftExcept ((Path.treePath path).mapError Failure.path)
  let listing ← git.output project ["ls-tree", revision, "--", relative]
  if listing.all isPlainBlank then return none
  else if listing.takeWhile (· ≠ 32) = directoryMode then return none
  else some <$> git.output project ["cat-file", "blob", revision ++ ":" ++ relative]

/-- The nonempty fields between zero bytes. -/
def fieldBytes (output : Content) : List Content :=
  (Text.splitOn 0 output).filter fun field => !field.isEmpty

def fields (output : Content) : Except Failure (List String) :=
  (fieldBytes output).mapM fun field =>
    (Text.Utf8.decode field).mapError fun _ => Failure.malformedText

def listFiles (git : GitTree) (project revision : String) : GitAction (List String) := do
  let output ← git.output project ["ls-tree", "-r", "--name-only", "-z", revision]
  let paths ← liftExcept (fields output)
  return paths.map fun path => "/" ++ path

/-!
# Changed files

The listing of a change has a status and one path for each entry, or two paths for a file that was
renamed or copied.  A status is known by its first letter; entries with other letters have one
path and are passed over.
-/

def kindOf? (status : String) : Option ChangeKind :=
  match status.toList with
  | 'A' :: _ => some .added
  | 'M' :: _ => some .modified
  | 'T' :: _ => some .modified
  | 'D' :: _ => some .deleted
  | 'R' :: _ => some .renamed
  | 'C' :: _ => some .copied
  | _ => none

/-- The path of a name in a listing, where the leading slash is left out. -/
def checkedName (field : String) : Option String → Document.Check (Option String)
  | none => pure none
  | some name => (some <$> Document.pathRule (Path.normalize ("/" ++ name))).inside field

/-- A changed file with the names of its listing. -/
def changedFile (kind : ChangeKind) (old new : Option String) : Except Failure ChangedFile :=
  (Document.checkedFile (checkedName "old_path" old) (checkedName "new_path" new)
    (pure kind)).result.mapError .document

def readEntries : List String → Except Failure (List ChangedFile)
  | [] => .ok []
  | [status] => if (kindOf? status).isSome then .error .cutListing else .ok []
  | status :: path :: rest =>
      match kindOf? status with
      | none => readEntries rest
      | some kind =>
          if kind = .renamed ∨ kind = .copied then
            match rest with
            | [] => .error .cutListing
            | new :: rest => do
                let file ← changedFile kind (some path) (some new)
                return file :: (← readEntries rest)
          else do
            let old := if kind = .added then none else some path
            let new := if kind = .deleted then none else some path
            let file ← changedFile kind old new
            return file :: (← readEntries rest)

/-- The arguments that ask for what a revision changes against another one, or against its
parent. -/
def diffArgs (revision : String) (base : Option String) : List String :=
  ["diff-tree", "--no-commit-id", "-r", "-M", "-C", "--name-status", "-z"] ++
    match Text.nonempty? base with
    | some base => [base, revision]
    | none => ["--root", revision]

def changedFiles (git : GitTree) (project revision : String) (base : Option String) :
    GitAction (List ChangedFile) := do
  let output ← git.output project (diffArgs revision base)
  liftExcept (fields output >>= readEntries)

/-!
# The tree
-/

def finished (action : GitAction α) : Except Failure α := (action.run []).1

def tree (git : GitTree) : Tree where
  branchHead project branch := finished (git.branchHead project branch)
  containsRevision project branch revision :=
    finished (git.containsRevision project branch revision)
  contentOf project revision path := finished (git.contentOf project revision path)
  listFiles project revision := finished (git.listFiles project revision)

end GitTree
end Ownership
