import Ownership.Text.Fingerprint
import Ownership.Tree

/-!
# A tree held in memory

Every commit to a branch yields a new revision with a snapshot of its own, made from that of the
branch's head.  The revision is named by a digest of the project, the branch and the number of the
commit, so the digest is all that keeps two revisions apart.  A commit with a bad path makes no
revision and takes no number; all that it leaves behind is a branch that is known and perhaps still
empty.
-/

namespace Ownership

abbrev Snapshot := Table String Content

structure History where
  snapshots : Table (String × String) Snapshot := {}
  branches : Table (String × String) (List String) := {}
  commits : Nat := 0
deriving DecidableEq, Repr

namespace History

/-- Writes one file of a commit into a snapshot; no content deletes it. -/
def writeFile (snapshot : Snapshot) (file : String × Option Content) :
    Except PathError Snapshot := do
  let path ← Path.normalize file.1
  match file.2 with
  | some content => return snapshot.insert path content
  | none => return snapshot.erase path

def revisions (history : History) (project branch : String) : List String :=
  history.branches.getD (project, branch) []

def head? (history : History) (project branch : String) : Option String :=
  (history.revisions project branch).getLast?

def snapshotAt? (history : History) (project revision : String) : Option Snapshot :=
  history.snapshots.get? (project, revision)

/-- What a revision is named by. -/
def revisionText (project branch : String) (number : Nat) : String :=
  project ++ "|" ++ branch ++ "|" ++ Text.integerText number

def headSnapshot (history : History) (project branch : String) : Snapshot :=
  ((history.head? project branch).bind (history.snapshotAt? project)).getD {}

/-- A commit under a digest of one's own choice. -/
def commitWith (digest : String → String) (history : History) (project branch : String)
    (files : Table String (Option Content)) : Except PathError (String × History) := do
  let snapshot ← files.entries.foldlM writeFile (history.headSnapshot project branch)
  let number := history.commits + 1
  let revision := digest (revisionText project branch number)
  return (revision, {
    snapshots := history.snapshots.insert (project, revision) snapshot
    branches := history.branches.insert (project, branch)
      (history.revisions project branch ++ [revision])
    commits := number })

def commit (history : History) (project branch : String) (files : Table String (Option Content)) :
    Except PathError (String × History) :=
  commitWith Text.fingerprint history project branch files

/-!
# Trying commits

A branch is known from the first commit to it that is tried, whether or not it succeeds.
-/

structure Commit where
  project : String
  branch : String
  /-- The files in the order in which they are written. -/
  files : Table String (Option Content)
deriving DecidableEq, Repr

/-- Makes a branch known; it has no revisions as long as no commit to it succeeds. -/
def enter (history : History) (project branch : String) : History :=
  if history.branches.contains (project, branch) then history
  else { history with branches := history.branches.insert (project, branch) [] }

/-- The outcome of a commit, and the history after it whether it has succeeded or not. -/
def attemptWith (digest : String → String) (history : History) (commit : Commit) :
    Except PathError String × History :=
  let entered := history.enter commit.project commit.branch
  match commitWith digest entered commit.project commit.branch commit.files with
  | .ok (revision, next) => (.ok revision, next)
  | .error error => (.error error, entered)

def attempt (history : History) (commit : Commit) : Except PathError String × History :=
  attemptWith Text.fingerprint history commit

/-!
# Reading
-/

def containsRevision (history : History) (project branch revision : String) : Bool :=
  decide (revision ∈ history.revisions project branch)

def snapshot (history : History) (project revision : String) : Except Failure Snapshot :=
  match history.snapshotAt? project revision with
  | some snapshot => .ok snapshot
  | none => .error (.tree (.unknownRevision project revision))

def contentOf (history : History) (project revision path : String) :
    Except Failure (Option Content) := do
  let snapshot ← history.snapshot project revision
  let path ← (Path.normalize path).mapError .path
  return snapshot.get? path

def listFiles (history : History) (project revision : String) : Except Failure (List String) := do
  return Text.sorted (← history.snapshot project revision).keys

def tree (history : History) : Tree where
  branchHead project branch := .ok (history.head? project branch)
  containsRevision project branch revision := .ok (history.containsRevision project branch revision)
  contentOf := history.contentOf
  listFiles := history.listFiles

end History
end Ownership
