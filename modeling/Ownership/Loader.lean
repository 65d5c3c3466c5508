import Ownership.Session
import Ownership.Text.Utf8

/-!
# Loading configurations

A configuration is read from the tree once for each revision, file and format; after that the
session answers.
-/

namespace Ownership
namespace Loader

def cacheKey (backend : Backend) (key : ConfigKey) (revision : String) : CacheKey where
  project := key.project
  branch := key.branch
  revision := revision
  filePath := key.filePath backend.fileName
  backendId := backend.id

def readContent (backend : Backend) (key : ConfigKey) (content : Content) : Reading :=
  let broken (message : String) : BrokenConfig :=
    { message, project := some key.project, branch := some key.branch
      filePath := some (key.filePath backend.fileName) }
  match Text.Utf8.decode content with
  | .error defect => .error (broken ("not valid UTF-8 (" ++ defect.message ++ ")"))
  | .ok text =>
      match backend.format.read key text with
      | .error error => .error (broken error.message)
      | .ok (config, _) => .ok (some config)

def readFresh (tree : Tree) (backend : Backend) (key : ConfigKey) (revision : String) :
    Except Failure Reading := do
  match ← tree.contentOf key.project revision (key.filePath backend.fileName) with
  | none => return .ok none
  | some content => return readContent backend key content

/-- What became of the configuration with a key; only the tree itself can fail. -/
def fetch (tree : Tree) (backend : Backend) (key : ConfigKey) (revision : String) :
    Walk Reading := do
  let place := cacheKey backend key revision
  match (← get).cache.get? place with
  | some reading => return reading
  | none =>
      modify fun session => { session with reads := session.reads + 1 }
      let reading ← liftExcept (readFresh tree backend key revision)
      modify fun session => { session with cache := session.cache.put place reading }
      return reading

/-- The configuration with a key, or nothing if there is no such file; a broken file is a
failure. -/
def load (tree : Tree) (backend : Backend) (key : ConfigKey) (revision : String) :
    Walk (Option OwnerConfig) := do
  match ← fetch tree backend key revision with
  | .ok config => return config
  | .error error => throw (.brokenConfig error)

def brokenPlace (key : ConfigKey) (error : BrokenConfig) : String :=
  key.project ++ ":" ++ key.branch ++ ":" ++ error.filePath.getD ""

/-- Like `load`, but a broken file is noted and counts as missing. -/
def loadOrSkip (tree : Tree) (backend : Backend) (key : ConfigKey) (revision : String) :
    Walk (Option OwnerConfig) := do
  match ← fetch tree backend key revision with
  | .ok config => return config
  | .error error =>
      modify fun session => session.noteBroken (brokenPlace key error) error.describe
      return none

end Loader
end Ownership
