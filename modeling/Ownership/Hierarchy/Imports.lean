import Ownership.Site

/-!
# Imports

A configuration is expanded by the configurations it imports, by those that these import, and so
on down to a greatest depth.  The imports are worked off in rounds: a round holds all imports that
are reached over equally many steps, and loading them gives the imports of the next round.  The
same file may be reached along several ways, and then counts once for each.
-/

namespace Ownership
namespace Hierarchy

structure Pending where
  imp : Import
  importer : ConfigKey
  revision : String
deriving DecidableEq, Repr

structure Expansion where
  ignoresParents : Bool
  sets : List OwnerSet
deriving DecidableEq, Repr

/-- The revision that an import refers to: that of the importer within its branch, and the head of
any other branch. -/
def importRevision (site : Site) (pending : Pending) (project branch : String) :
    Except Failure (Option String) :=
  if project = pending.importer.project ∧ branch = pending.importer.branch then
    .ok (some pending.revision)
  else site.tree.branchHead project branch

def importKey (imp : Import) (project branch : String) : Except Failure ConfigKey := do
  let folder ← (Path.parentFolder imp.path).mapError .path
  (ConfigKey.create project branch folder (some (Path.fileName imp.path))).mapError
    (.field "folder_path")

def loadImport (site : Site) (pending : Pending) : Walk (Option (OwnerConfig × String)) := do
  let project := (Text.nonempty? pending.imp.project).getD pending.importer.project
  let branch := (Text.nonempty? pending.imp.branch).getD pending.importer.branch
  match ← liftExcept (importRevision site pending project branch) with
  | none => return none
  | some revision =>
      let key ← liftExcept (importKey pending.imp project branch)
      let backend ← liftExcept (site.backendFor project branch)
      let config ← Loader.loadOrSkip site.tree backend key revision
      return config.map fun config => (config, revision)

def Expansion.add (expansion : Expansion) (scope : ImportScope) (config : OwnerConfig) :
    Expansion :=
  match scope with
  | .everything =>
      { ignoresParents := expansion.ignoresParents || config.ignoresParents
        sets := expansion.sets ++ config.sets }
  | .globalOnly =>
      { expansion with sets := expansion.sets ++ config.sets.filter OwnerSet.isGlobal }

/-- An import inside an imported configuration has no wider scope than the way to it. -/
def narrow (outer inner : ImportScope) : ImportScope :=
  match outer with
  | .everything => inner
  | .globalOnly => .globalOnly

def nextImports (scope : ImportScope) (config : OwnerConfig) (revision : String) : List Pending :=
  config.imports.map fun imp =>
    { imp := { imp with scope := narrow scope imp.scope }, importer := config.key, revision }

/-- Follows the imports of one round in order; gives those of the next round. -/
def followRound (site : Site) (expansion : Expansion) :
    List Pending → Walk (Expansion × List Pending)
  | [] => return (expansion, [])
  | pending :: rest => do
      match ← loadImport site pending with
      | none => followRound site expansion rest
      | some (config, revision) =>
          let scope := pending.imp.scope
          let (expansion, later) ← followRound site (expansion.add scope config) rest
          return (expansion, nextImports scope config revision ++ later)

/-- Follows imports for a number of rounds, or until none is left. -/
def followRounds (site : Site) (expansion : Expansion) (pending : List Pending) :
    Nat → Walk Expansion
  | 0 => return expansion
  | rounds + 1 =>
      if pending.isEmpty then return expansion
      else do
        let (expansion, later) ← followRound site expansion pending
        followRounds site expansion later rounds

/-- The configuration with all that it imports, over at most `depth` steps. -/
def expandImports (site : Site) (config : OwnerConfig) (revision : String) (depth : Nat) :
    Walk OwnerConfig := do
  if config.imports.isEmpty then return config
  else
    let start : Expansion := { ignoresParents := config.ignoresParents, sets := config.sets }
    let pending := config.imports.map fun imp => { imp, importer := config.key, revision }
    let expansion ← followRounds site start pending depth
    return { config with
      sets := expansion.sets, ignoresParents := expansion.ignoresParents, imports := [] }

end Hierarchy
end Ownership
