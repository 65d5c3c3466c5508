import Ownership.Path

/-!
# Changes

A change proposes a revision for a branch.  It touches files, has an uploader and reviewers, and
collects approvals.
-/

namespace Ownership

/-!
# Changed files
-/

inductive ChangeKind
  | added
  | modified
  | deleted
  | renamed
  | copied
deriving DecidableEq, Repr

namespace ChangeKind

def name : ChangeKind → String
  | .added => "added"
  | .modified => "modified"
  | .deleted => "deleted"
  | .renamed => "renamed"
  | .copied => "copied"

def all : List ChangeKind := [.added, .modified, .deleted, .renamed, .copied]

def takesOld (kind : ChangeKind) : Bool := kind = .deleted || kind = .renamed

end ChangeKind

/-- A file of a change.  Its paths are in normal form, and those that its kind calls for are
there. -/
structure ChangedFile where
  oldPath : Option String := none
  newPath : Option String := none
  kind : ChangeKind
deriving DecidableEq, Repr

namespace ChangedFile

def missingPath? (file : ChangedFile) : Option String :=
  if file.kind.takesOld && file.oldPath.isNone then
    some ("old_path is required for " ++ file.kind.name ++ " files")
  else if file.kind ≠ .deleted && file.newPath.isNone then
    some ("new_path is required for " ++ file.kind.name ++ " files")
  else none

/-- Whether the owners of the old path have a say.  A modification that is recorded under a new
name touches both paths. -/
def requiresOldPath (file : ChangedFile) : Bool :=
  file.kind.takesOld ||
    (file.kind = .modified && file.oldPath.isSome && file.oldPath ≠ file.newPath)

def touchedPaths (file : ChangedFile) : List String :=
  let new := file.newPath.toList
  let old := if file.requiresOldPath then file.oldPath.toList else []
  new ++ old.filter fun path => decide (path ∉ new)

end ChangedFile

/-!
# Approvals and changes
-/

structure Approval where
  accountId : Int
  label : String
  value : Int
deriving DecidableEq, Repr

structure Change where
  project : String
  branch : String
  number : Int
  owner : Int
  uploader : Int
  currentRevision : String
  baseRevision : Option String := none
  reviewers : List Int := []
  approvals : List Approval := []
deriving DecidableEq, Repr

structure ChangeDocument where
  change : Change
  changedFiles : List ChangedFile := []
deriving DecidableEq, Repr

namespace ChangeDocument

/-- The files of a revision; only those of the current revision are known. -/
def filesAt (document : ChangeDocument) (revision : String) : List ChangedFile :=
  if revision = document.change.currentRevision then document.changedFiles else []

end ChangeDocument
end Ownership
