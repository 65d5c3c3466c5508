import Ownership.Hierarchy.Imports
import Ownership.Path.Ancestors

/-!
# The levels of a path

The owners of a path are found by climbing from its folder to the root.  Every folder with a
configuration is a level.  The climb ends above a level that cuts itself off, for all paths or for
this one.  Whoever climbs may stop at any level; the folders above are then not even looked at.
-/

namespace Ownership
namespace Hierarchy

/-- What is asked for: a path in a project and branch, seen at a revision. -/
structure Place where
  project : String
  branch : String
  revision : String
  path : String
deriving DecidableEq, Repr

/-- The expanded configuration of a folder, `distance` folders above that of the file. -/
structure Level where
  config : OwnerConfig
  distance : Nat
deriving DecidableEq, Repr

namespace Level

def folder (level : Level) : String := level.config.key.folder

/-- Whether a set of the level shuts out the global owners of the project for a path. -/
def ignoresGlobalOwners (level : Level) (path : String) : Except PathError Bool :=
  level.config.overridesFor path

/-- Whether the climb for a path ends above the level. -/
def endsClimb (level : Level) (path : String) : Except PathError Bool :=
  if level.config.ignoresParents then .ok true else level.config.overridesFor path

end Level

structure Climb where
  project : String
  branch : String
  revision : String
  path : String
  folders : List String
  backend : Backend
  fileName : String
  importDepth : Nat
deriving DecidableEq, Repr

def prepare (site : Site) (place : Place) : Except Failure Climb := do
  let path ← (Path.normalize place.path).mapError .path
  let backend ← site.backendFor place.project place.branch
  let fileName ← site.configFileName place.project place.branch
  let folders ← (Path.ancestorFolders path).mapError .path
  return {
    project := place.project, branch := place.branch, revision := place.revision
    path, folders, backend, fileName
    importDepth := (site.configs.get place.project).maxImportDepth }

def levelAt? (site : Site) (climb : Climb) (folder : String) (distance : Nat) :
    Walk (Option Level) := do
  let key ← liftExcept <|
    (ConfigKey.create climb.project climb.branch folder (some climb.fileName)).mapError
      (Failure.field "folder_path")
  match ← Loader.loadOrSkip site.tree climb.backend key climb.revision with
  | none => return none
  | some config =>
      let config ← expandImports site config climb.revision climb.importDepth
      return some { config, distance }

/-!
# Visiting

Whoever visits may do more than a walk does, as long as walks are a part of it.
-/

variable {m : Type → Type} [Monad m] [MonadLiftT Walk m]

def isLast (climb : Climb) (level : Level) : Walk Bool :=
  liftExcept ((level.endsClimb climb.path).mapError Failure.path)

def visitFolders (site : Site) (climb : Climb) (visit : β → Level → m (ForInStep β)) :
    Nat → List String → β → m β
  | _, [], state => return state
  | distance, folder :: rest, state => do
      match ← (levelAt? site climb folder distance : Walk (Option Level)) with
      | none => visitFolders site climb visit (distance + 1) rest state
      | some level =>
          match ← visit state level with
          | .done state => return state
          | .yield state =>
              if ← (isLast climb level : Walk Bool) then return state
              else visitFolders site climb visit (distance + 1) rest state

/-- Climbs from the folder of a path, handing each level to `visit` until it is done. -/
def visitLevels (site : Site) (place : Place) (start : β) (visit : β → Level → m (ForInStep β)) :
    m β := do
  let climb ← (liftExcept (prepare site place) : Walk Climb)
  visitFolders site climb visit 0 climb.folders start

def levels (site : Site) (place : Place) : Walk (List Level) :=
  visitLevels (m := Walk) site place [] fun levels level => return .yield (levels ++ [level])

end Hierarchy
end Ownership
