/-!
# What a format cannot express
-/

namespace Ownership

inductive Inexpressible
  | overridingGlobalSet
  | imports
  | overridingSet
  | remarks
deriving DecidableEq, Repr

def Inexpressible.message : Inexpressible → String
  | .overridingGlobalSet =>
      "find-owners cannot express ignoring global and parent owners " ++
        "for a set without path expressions"
  | .imports => "imports are not supported by the proto format"
  | .overridingSet => "ignoreGlobalAndParentOwners is not supported"
  | .remarks => "owner annotations are not supported by the proto format"

end Ownership
