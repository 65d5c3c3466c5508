import Ownership.Loader

/-!
# Sites

A site is a tree together with the settings of its projects and the formats it knows.
-/

namespace Ownership

structure Site where
  tree : Tree
  configs : ProjectConfigs := {}
  registry : Registry := Registry.builtIn

namespace Site

def backendFor (site : Site) (project branch : String) : Except Failure Backend :=
  (site.registry.get ((site.configs.get project).backendFor branch)).mapError .registry

def configFileName (site : Site) (project branch : String) : Except Failure String := do
  let backend ← site.backendFor project branch
  return backend.fileNameFor (site.configs.get project).fileExtension

/-- Whether any file of a branch has the name of a configuration file. -/
def containsAnyConfig (site : Site) (project branch : String) : Except Failure Bool := do
  match ← site.tree.branchHead project branch with
  | none => return false
  | some revision =>
      let name ← site.configFileName project branch
      let paths ← site.tree.listFiles project revision
      return paths.any fun path => Path.fileName path = name

end Site
end Ownership
