import Ownership.Table
import Ownership.Text.DecimalDigit
import Ownership.Text.Split

/-!
# Accounts

A directory knows the accounts of a site and finds them by email address.  Beside it stand two
tables: which accounts a viewer cannot see, and who owns a project.
-/

namespace Ownership

structure Account where
  id : Int
  emails : List String := []
  displayName : Option String := none
  active : Bool := true
  serviceUser : Bool := false
deriving DecidableEq, Repr

def accountWords (id : Int) : String := "account " ++ Text.integerText id

namespace Account

def firstEmail? (account : Account) : Option String := account.emails.head?

def label (account : Account) : String :=
  ((Text.nonempty? account.displayName).or account.firstEmail?).getD (accountWords account.id)

end Account

/-!
# The directory

Adding an account with a known number replaces its data.  The list of an address keeps every
account that was ever added with it, in order.
-/

structure Directory where
  accounts : Table Int Account := {}
  idsByEmail : Table String (List Int) := {}
deriving DecidableEq, Repr

namespace Directory

def listUnder (ids : Table String (List Int)) (email : String) (id : Int) :
    Table String (List Int) :=
  let listed := ids.getD email []
  ids.insert email (if id ∈ listed then listed else listed ++ [id])

def add (directory : Directory) (account : Account) : Directory where
  accounts := directory.accounts.insert account.id account
  idsByEmail := account.emails.foldl
    (fun ids email => listUnder ids email account.id) directory.idsByEmail

def ofList (accounts : List Account) : Directory := accounts.foldl add {}

def get? (directory : Directory) (id : Int) : Option Account := directory.accounts.get? id

def isActive (directory : Directory) (id : Int) : Bool :=
  (directory.get? id).any Account.active

/-- The active accounts that are listed under an address. -/
def byEmail (directory : Directory) (email : String) : List Int :=
  (directory.idsByEmail.getD email []).filter directory.isActive

def isServiceUser (directory : Directory) (id : Int) : Bool :=
  (directory.get? id).any Account.serviceUser

def ids (directory : Directory) : List Int :=
  directory.accounts.keys.mergeSort fun a b => decide (a ≤ b)

def size (directory : Directory) : Nat := directory.accounts.size

def label (directory : Directory) (id : Int) : String :=
  match directory.get? id with
  | some account => account.label
  | none => accountWords id

end Directory

/-!
# Visibility and permissions
-/

/-- The accounts that are hidden from each viewer; a request without a viewer is one too. -/
structure Visibility where
  hidden : Table (Option Int) (List Int) := {}
deriving DecidableEq, Repr

namespace Visibility

def everything : Visibility := {}

def canSee (visibility : Visibility) (viewer : Option Int) (id : Int) : Bool :=
  decide (id ∉ visibility.hidden.getD viewer [])

end Visibility

structure Permissions where
  projectOwners : Table String (List Int) := {}
deriving DecidableEq, Repr

namespace Permissions

def isProjectOwner (permissions : Permissions) (project : String) (id : Int) : Bool :=
  decide (id ∈ permissions.projectOwners.getD project [])

end Permissions
end Ownership
