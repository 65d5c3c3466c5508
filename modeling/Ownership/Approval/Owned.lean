import Ownership.Approval.Engine
import Ownership.Text.Slice

/-!
# Owned paths

The paths of a change that an account owns.  Votes play no part in this: the walk asks each level
for the one account, and at the end the global owners.
-/

namespace Ownership
namespace Engine

structure Search where
  found : Bool := false
  ignoresGlobal : Bool := false
deriving DecidableEq, Repr

def searchLevel (engine : Engine) (path : String) (id : Int) (search : Search)
    (level : Hierarchy.Level) : Walk (ForInStep Search) := do
  let owners ← liftExcept ((engine.resolver.pathOwners level.config path).mapError Failure.path)
  if owners.has id then return .done { search with found := true }
  else
    let ignoresGlobal ←
      if search.ignoresGlobal then pure true
      else liftExcept ((level.ignoresGlobalOwners path).mapError Failure.path)
    return .yield { search with ignoresGlobal }

/-- The revision to read configurations at: that of the context, or the head of the branch. -/
def ownerRevision (engine : Engine) (context : StatusContext) : Except Failure String :=
  match context.revision with
  | some revision => .ok revision
  | none => do
      match ← engine.site.tree.branchHead context.project context.branch with
      | some revision => return revision
      | none => throw (.tree (.unknownBranch context.project context.branch))

def isOwner (engine : Engine) (context : StatusContext) (path : String) (id : Int) :
    Walk Bool := do
  if context.bootstrapping then return engine.isProjectOwner context id
  else
    let revision ← liftExcept (engine.ownerRevision context)
    let place : Hierarchy.Place :=
      { project := context.project, branch := context.branch, revision, path }
    let search ← Hierarchy.visitLevels engine.site place {} (engine.searchLevel path id)
    if search.found then return true
    else if search.ignoresGlobal || context.globalOwners.isEmpty then return false
    else return (engine.resolver.resolve context.globalOwners).has id

def touchedPaths (files : List ChangedFile) : List String :=
  Text.sortedDistinct (files.flatMap ChangedFile.touchedPaths)

def ownedAmong (engine : Engine) (context : StatusContext) (id : Int) :
    List String → Walk (List String)
  | [] => return []
  | path :: rest => do
      let owns ← engine.isOwner context path id
      let others ← engine.ownedAmong context id rest
      return if owns then path :: others else others

/-- The touched paths that an account owns, or a part of their list. -/
def ownedPaths (engine : Engine) (change : Change) (id : Int) (start : Int)
    (limit : Option Int) : Walk (List String) := do
  match ← liftExcept (engine.evaluation? change) with
  | none => return []
  | some (context, files) =>
      let owned ← engine.ownedAmong context id (touchedPaths files)
      return Text.slice start (limit.map fun limit => start + limit) owned

end Engine
end Ownership
