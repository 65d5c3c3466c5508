import Ownership.Glob
import Ownership.Path

/-!
# Owner configurations

An owner configuration belongs to a folder and says who owns the files below it.  It holds sets
of owners, each for all files or for those that some path expression selects, imports of other
configurations, and a flag that cuts it off from the folders above.
-/

namespace Ownership

/-!
# Owners

An owner is named by an email address, or by the wildcard, which stands for everybody.
Remarks come along with an owner but do not tell owners apart.
-/

structure Remark where
  key : String
  value : Option String := none
deriving DecidableEq, Repr

namespace Remark

def render (remark : Remark) : String :=
  match remark.value with
  | none => remark.key
  | some value => remark.key ++ ":" ++ value

/-- The owner is not to be suggested as long as others can be. -/
def neverSuggest : Remark := { key := "NEVER_SUGGEST" }

end Remark

def everybody : String := "*"

structure OwnerRef where
  email : String
  remarks : List Remark := []
deriving DecidableEq, Repr

namespace OwnerRef

def isEverybody (ref : OwnerRef) : Bool := ref.email = everybody

/-- Whether two references name one owner: remarks do not count. -/
def same (a b : OwnerRef) : Bool := a.email = b.email

end OwnerRef

/-!
# Sets of owners
-/

structure OwnerSet where
  globs : List String := []
  owners : List OwnerRef := []
  /-- The owners named above the configuration, and the global ones, do not count. -/
  overrides : Bool := false
deriving DecidableEq, Repr

namespace OwnerSet

def isGlobal (set : OwnerSet) : Bool := set.globs.isEmpty

def emails (set : OwnerSet) : List String := set.owners.map OwnerRef.email

def isFor (set : OwnerSet) (relative : String) : Bool :=
  set.isGlobal || set.globs.any fun glob => Glob.selects glob relative

/-- Equality up to the remarks of owners. -/
def same (a b : OwnerSet) : Bool :=
  a.globs = b.globs && a.emails = b.emails && a.overrides = b.overrides

end OwnerSet

/-!
# Imports
-/

inductive ImportScope
  /-- All sets of the imported configuration and its flag. -/
  | everything
  /-- Its sets without path expressions. -/
  | globalOnly
deriving DecidableEq, Repr

def ImportScope.name : ImportScope → String
  | .everything => "ALL"
  | .globalOnly => "GLOBAL_ONLY"

/-- A missing project or branch means that of the importing configuration. -/
structure Import where
  project : Option String := none
  branch : Option String := none
  path : String
  scope : ImportScope := .everything
deriving DecidableEq, Repr

namespace Import

def create (project branch : Option String) (path : String) (scope : ImportScope) :
    Except PathError Import := do
  return { project, branch, path := ← Path.normalize path, scope }

end Import

/-!
# Configurations
-/

/-- Where a configuration lives.  Without a file name it is in the default file of its format. -/
structure ConfigKey where
  project : String
  branch : String
  folder : String := "/"
  fileName : Option String := none
deriving DecidableEq, Repr

namespace ConfigKey

def create (project branch folder : String) (fileName : Option String) :
    Except PathError ConfigKey := do
  return { project, branch, folder := ← Path.normalizeFolder folder, fileName }

def filePath (key : ConfigKey) (defaultFileName : String) : String :=
  let name := (Text.nonempty? key.fileName).getD defaultFileName
  if key.folder = "/" then "/" ++ name else key.folder ++ "/" ++ name

end ConfigKey

structure OwnerConfig where
  key : ConfigKey
  ignoresParents : Bool := false
  sets : List OwnerSet := []
  imports : List Import := []
deriving DecidableEq, Repr

namespace OwnerConfig

def setsFor (config : OwnerConfig) (path : String) : Except PathError (List OwnerSet) := do
  let relative ← Path.relativeTo config.key.folder path
  return config.sets.filter fun set => set.isFor relative

def overridesFor (config : OwnerConfig) (path : String) : Except PathError Bool := do
  return (← config.setsFor path).any OwnerSet.overrides

def sameSets (a b : OwnerConfig) : Bool :=
  a.sets.length = b.sets.length && (a.sets.zip b.sets).all fun (x, y) => x.same y

/-- Equality up to the remarks of owners. -/
def same (a b : OwnerConfig) : Bool :=
  a.key = b.key && a.ignoresParents = b.ignoresParents && a.sameSets b && a.imports = b.imports

end OwnerConfig

/-!
# Email addresses
-/

namespace Email

/-- An address has one at sign with something on both sides, and no blank. -/
def isValid (email : String) : Bool :=
  let s := email.toList
  !s.any Text.isBlank &&
    match Text.splitOn '@' s with
    | [account, domain] => !account.isEmpty && !domain.isEmpty
    | _ => false

end Email
end Ownership
