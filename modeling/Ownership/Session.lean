import Ownership.Failure
import Ownership.Tree

/-!
# Sessions

What is remembered while owner configurations are looked up: the configurations that were read,
how often a tree was asked for a file, the broken files that were met, and the warnings that were
given about them.  An operation that fails keeps what it has learned so far.
-/

namespace Ownership

/-!
# The cache

Entries are kept under the revision they were read at, so they never grow old.  A missing file and
a broken one are remembered too.
-/

structure CacheKey where
  project : String
  branch : String
  revision : String
  filePath : String
  backendId : String
deriving DecidableEq, Repr

/-- What became of reading a configuration file: broken, missing or read. -/
abbrev Reading := Except BrokenConfig (Option OwnerConfig)

structure Cache where
  entries : Table CacheKey Reading := {}

namespace Cache

def get? (cache : Cache) (key : CacheKey) : Option Reading := cache.entries.get? key

def put (cache : Cache) (key : CacheKey) (reading : Reading) : Cache :=
  ⟨cache.entries.insert key reading⟩

def size (cache : Cache) : Nat := cache.entries.size

/-- Whether an invalidation covers an entry: it is for all projects or for that of the entry. -/
def covers (project : Option String) (key : CacheKey) : Bool :=
  project.all fun project => key.project = project

def invalidate (cache : Cache) (project : Option String) : Nat × Cache :=
  let (dropped, kept) := cache.entries.entries.partition fun entry => covers project entry.1
  (dropped.length, ⟨⟨kept⟩⟩)

end Cache

/-!
# The state of a session
-/

structure Session where
  cache : Cache := {}
  /-- How often the tree was asked for the content of a file. -/
  reads : Nat := 0
  /-- The latest message about each broken file, in the order in which the files were met. -/
  diagnostics : Table String String := {}
  /-- The warnings given so far; only the first about a file is one. -/
  warnings : List String := []

abbrev Walk := ExceptT Failure (StateM Session)

namespace Session

def noteBroken (session : Session) (place message : String) : Session :=
  { session with
    diagnostics := session.diagnostics.insert place message
    warnings :=
      if session.diagnostics.contains place then session.warnings
      else session.warnings ++ [message] }

end Session
end Ownership
