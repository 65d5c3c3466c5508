import Ownership.Account
import Ownership.OwnerConfig

/-!
# Resolving owners

The owners that a configuration names are addresses; resolving them gives accounts.  An address
that belongs to no active account stays unresolved.  Everybody is kept as a flag and never spelled
out.
-/

namespace Ownership

/-!
# The owners of a path at one level
-/

structure PathOwners where
  accounts : List Int := []
  everybody : Bool := false
  remarks : Table Int (List Remark) := {}
  unresolved : List String := []
deriving DecidableEq, Repr

namespace PathOwners

def has (owners : PathOwners) (id : Int) : Bool := owners.everybody || decide (id ∈ owners.accounts)

def hasAny (owners : PathOwners) (ids : List Int) : Bool :=
  if owners.everybody then !ids.isEmpty else ids.any fun id => decide (id ∈ owners.accounts)

def hasRemark (owners : PathOwners) (id : Int) (remark : Remark) : Bool :=
  decide (remark ∈ owners.remarks.getD id [])

def isEmpty (owners : PathOwners) : Bool := owners.accounts.isEmpty && !owners.everybody

def addUnresolved (owners : PathOwners) (email : String) : PathOwners :=
  if email ∈ owners.unresolved then owners
  else { owners with unresolved := owners.unresolved ++ [email] }

def addAccount (owners : PathOwners) (remarks : List Remark) (id : Int) : PathOwners :=
  let accounts := if id ∈ owners.accounts then owners.accounts else owners.accounts ++ [id]
  let present := owners.remarks.getD id []
  { owners with
    accounts
    remarks :=
      if remarks.isEmpty then owners.remarks
      else owners.remarks.insert id
        (present ++ (remarks.filter fun remark => decide (remark ∉ present)).eraseDups) }

end PathOwners

/-!
# The resolver
-/

structure Resolver where
  directory : Directory := {}
  visibility : Visibility := {}
  viewer : Option Int := none
  /-- Whether accounts that the viewer cannot see are left out. -/
  enforces : Bool := true

namespace Resolver

def shows (resolver : Resolver) (id : Int) : Bool :=
  !resolver.enforces || resolver.visibility.canSee resolver.viewer id

def addRef (resolver : Resolver) (owners : PathOwners) (ref : OwnerRef) : PathOwners :=
  if ref.isEverybody then { owners with everybody := true }
  else
    let ids := resolver.directory.byEmail ref.email
    if ids.isEmpty then owners.addUnresolved ref.email
    else (ids.filter resolver.shows).foldl
      (fun owners id => owners.addAccount ref.remarks id) owners

def resolve (resolver : Resolver) (refs : List OwnerRef) : PathOwners :=
  refs.foldl resolver.addRef {}

def pathOwners (resolver : Resolver) (config : OwnerConfig) (path : String) :
    Except PathError PathOwners := do
  let path ← Path.normalize path
  let sets ← config.setsFor path
  return resolver.resolve (sets.flatMap OwnerSet.owners)

end Resolver
end Ownership
