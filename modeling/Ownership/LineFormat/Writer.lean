import Ownership.Format.Inexpressible
import Ownership.LineFormat.Reader

/-!
# Writing the line format

The written form is canonical: the flag, the imports in order, the owners of all files by email,
then block by block the override, the plain owners in one line and each annotated owner in a line
of its own.  A set for all files cannot override, so a configuration with such a set is refused.
-/

namespace Ownership
namespace LineFormat

def renderOwner (owner : OwnerRef) : String :=
  if owner.remarks.isEmpty then owner.email
  else
    owner.email ++ " " ++
      " ".intercalate (owner.remarks.map fun a => "#\x7b" ++ a.render ++ "\x7d")

def perFileLine (globs : List String) (right : String) : String :=
  "per-file " ++ ",".intercalate globs ++ "=" ++ right

def blockLines (globs : List String) (block : Block) : List String :=
  let owners := sortedOwners block.owners
  let plain := owners.filter fun owner => owner.remarks.isEmpty
  let annotated := owners.filter fun owner => !owner.remarks.isEmpty
  (if block.overrides then [perFileLine globs noParentWords] else []) ++
    (if plain.isEmpty then []
      else [perFileLine globs (",".intercalate (plain.map OwnerRef.email))]) ++
    annotated.map fun owner => perFileLine globs (renderOwner owner)

/-- Takes in one set; sets for the same files come together. -/
def addSet (gathered : Gathered) (set : OwnerSet) : Except Inexpressible Gathered :=
  let join (owners : Owners) : Owners :=
    set.owners.foldl (fun owners ref => addOwner owners ref.email ref.remarks) owners
  if set.isGlobal then
    if set.overrides then .error .overridingGlobalSet
    else .ok { gathered with owners := join gathered.owners }
  else
    let globs := Text.sortedDistinct set.globs
    let block := gathered.blocks.getD globs {}
    .ok { gathered with
      blocks := gathered.blocks.insert globs
        { owners := join block.owners, overrides := block.overrides || set.overrides } }

def Gathered.lines (gathered : Gathered) : List String :=
  (if gathered.ignoresParents then [noParentWords] else []) ++
    (sortedImports gathered.imports).map renderImport ++
    (sortedOwners gathered.owners).map renderOwner ++
    (sortedBlocks gathered.blocks).flatMap fun (globs, block) => blockLines globs block

def write (config : OwnerConfig) : Except Inexpressible String := do
  let start : Gathered := { ignoresParents := config.ignoresParents, imports := config.imports }
  let gathered ← config.sets.foldlM addSet start
  return String.ofList (Text.unlines (gathered.lines.map String.toList))

end LineFormat
end Ownership
