import Ownership.Format.Inexpressible
import Ownership.OwnerConfig

/-!
# Writing the block format

The sets are written in their order, those without owners left out.  Imports, overriding sets and
remarks have no place in the format.
-/

namespace Ownership
namespace BlockFormat

def escapeChar (c : Char) : List Char :=
  if c = '\\' then ['\\', '\\']
  else if c = '"' then ['\\', '"']
  else if c = '\n' then ['\\', 'n']
  else if c = '\t' then ['\\', 't']
  else if c = '\r' then ['\\', 'r']
  else [c]

def quoteText (s : String) : String :=
  String.ofList ('"' :: s.toList.flatMap escapeChar ++ ['"'])

def renderOwner (owner : OwnerRef) : Except Inexpressible String :=
  if owner.remarks.isEmpty then
    .ok ("    owners \x7b\n      email: " ++ quoteText owner.email ++ "\n    \x7d\n")
  else .error .remarks

def renderSet (set : OwnerSet) : Except Inexpressible String :=
  if set.overrides then .error .overridingSet
  else if set.owners.isEmpty then .ok ""
  else do
    let globs := set.globs.map fun glob => "    path_expressions: " ++ quoteText glob ++ "\n"
    let owners ← set.owners.mapM renderOwner
    return "  owner_sets \x7b\n" ++ String.join globs ++ String.join owners ++ "  \x7d\n"

def write (config : OwnerConfig) : Except Inexpressible String :=
  if !config.imports.isEmpty then .error .imports
  else do
    let sets ← config.sets.mapM renderSet
    let flag := if config.ignoresParents then "  ignore_parent_owners: true\n" else ""
    return "owners_config \x7b\n" ++ flag ++ String.join sets ++ "\x7d\n"

end BlockFormat
end Ownership
