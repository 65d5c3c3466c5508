import Ownership.Tree
import Ownership.Tree.HostFiles

/-!
# A checked-out tree

A directory of the host as a tree.  It has a single revision, which every branch of every project
shares.  The administrative directory at its top does not belong to the tree.
-/

namespace Ownership

structure Checkout where
  files : HostFiles
  root : HostPath

namespace Checkout

def revision : String := String.ofList (List.replicate 40 '0')

/-- The name of the administrative directory. -/
def adminName : String := ".git"

def unreadable (path : HostPath) (error : HostError) : Failure :=
  .tree (.unreadableFile path.toString (error.message path.toString))

def contentOf (checkout : Checkout) (path : String) : Except Failure (Option Content) := do
  let relative ← (Path.treePath path).mapError .path
  let place := checkout.root.append relative
  let there ← (checkout.files.isFile place).mapError (unreadable place)
  if there then some <$> (checkout.files.read place).mapError (unreadable place)
  else return none

def listFiles (checkout : Checkout) : Except Failure (List String) :=
  match checkout.files.directory? checkout.root with
  | .error error => .error (.host error checkout.root.toString)
  | .ok none => .error (.tree (.noCheckout checkout.root.toString))
  | .ok (some place) =>
      let paths := (checkout.files.filesBelow place).filter fun path => path.head? ≠ some adminName
      .ok (paths.map fun path => "/" ++ "/".intercalate path)

def tree (checkout : Checkout) : Tree where
  branchHead _ _ := .ok (some revision)
  containsRevision _ _ asked := .ok (asked = revision)
  contentOf _ _ path := checkout.contentOf path
  listFiles _ _ := checkout.listFiles

end Checkout
end Ownership
