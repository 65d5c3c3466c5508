import Ownership.Change
import Ownership.Resolver

/-!
# Statuses

A path of a change is approved, waits for an approval, or lacks reviewers.  On the way up the
levels a status only ever rises.
-/

namespace Ownership

inductive OwnerStatus
  | insufficientReviewers
  | pending
  | approved
deriving DecidableEq, Repr

namespace OwnerStatus

def name : OwnerStatus → String
  | .insufficientReviewers => "INSUFFICIENT_REVIEWERS"
  | .pending => "PENDING"
  | .approved => "APPROVED"

def rank : OwnerStatus → Nat
  | .insufficientReviewers => 0
  | .pending => 1
  | .approved => 2

instance : LE OwnerStatus := ⟨fun a b => a.rank ≤ b.rank⟩

instance (a b : OwnerStatus) : Decidable (a ≤ b) := inferInstanceAs (Decidable (a.rank ≤ b.rank))

def max (a b : OwnerStatus) : OwnerStatus := if a ≤ b then b else a

end OwnerStatus

structure PathStatus where
  path : String
  status : OwnerStatus
  reason : Option String := none
deriving DecidableEq, Repr

/-- The statuses of a file's paths, as far as they need an approval. -/
structure FileStatus where
  file : ChangedFile
  new : Option PathStatus := none
  old : Option PathStatus := none
deriving DecidableEq, Repr

namespace FileStatus

def pathStatuses (status : FileStatus) : List PathStatus := status.new.toList ++ status.old.toList

def isApproved (status : FileStatus) : Bool :=
  status.pathStatuses.all fun path => path.status = .approved

end FileStatus

/-!
# Evaluating a level
-/

/-- Everything about a change that is fixed while its files are evaluated. -/
structure StatusContext where
  project : String
  branch : String
  /-- The revision that configurations are read at; not needed with an override. -/
  revision : Option String
  uploader : Int
  reviewers : List Int
  approvers : List Int
  hasOverride : Bool
  /-- The branch has no configuration at all yet. -/
  bootstrapping : Bool
  globalOwners : List OwnerRef := []
deriving DecidableEq, Repr

structure FoldStep where
  status : OwnerStatus
  keepsWalking : Bool
  reason : Option String := none
deriving DecidableEq, Repr

def foldLevel (status : OwnerStatus) (owners : PathOwners) (context : StatusContext) : FoldStep :=
  if owners.has context.uploader then
    { status := .approved, keepsWalking := false
      reason := some "the patch set uploader is a code owner" }
  else if !owners.hasAny context.reviewers then
    { status, keepsWalking := true }
  else if owners.hasAny context.approvers then
    { status := .approved, keepsWalking := false
      reason := some "a code owner approved the change" }
  else
    { status := status.max .pending, keepsWalking := true
      reason := some "a code owner is a reviewer" }

end Ownership
