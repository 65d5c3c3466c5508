import Ownership.Approval.Status
import Ownership.Hierarchy.Levels
import Ownership.Text.Order

/-!
# The approval of a change

Whether the files of a change have the approvals of their owners.  An override approval approves
everything.  In a branch without any configuration the owners of the project stand in for code
owners.  Otherwise each path is walked up level by level, and the global owners of the project come
last, unless a level shuts them out.
-/

namespace Ownership

structure Engine where
  site : Site
  directory : Directory := {}
  permissions : Permissions := {}
  /-- The files that a revision of a project changes against a base. -/
  changedFiles : String → String → Option String → Except Failure (List ChangedFile)

namespace Engine

def config (engine : Engine) (project : String) : ProjectConfig := engine.site.configs.get project

/-- Accounts that are hidden from somebody own their files all the same. -/
def resolver (engine : Engine) : Resolver := { directory := engine.directory, enforces := false }

/-!
# The context of a change
-/

def branchState (engine : Engine) (project branch : String) : Except Failure (String × Bool) := do
  match ← engine.site.tree.branchHead project branch with
  | none => throw (.tree (.unknownBranch project branch))
  | some revision =>
      let found ← engine.site.containsAnyConfig project branch
      return (revision, !found)

/-- Voting on a change makes the voter a reviewer. -/
def context (engine : Engine) (change : Change) : Except Failure StatusContext := do
  let config := engine.config change.project
  let required ← config.required.mapError (.projectConfig change.project)
  let override ← config.override?.mapError (.projectConfig change.project)
  let hasOverride := override.any fun required => change.approvals.any required.isMetBy
  let state ← if hasOverride then pure none
    else some <$> engine.branchState change.project change.branch
  let approvers := ((change.approvals.filter required.isMetBy).map Approval.accountId).eraseDups
  return {
    project := change.project
    branch := change.branch
    revision := state.map Prod.fst
    uploader := change.uploader
    reviewers := (change.reviewers ++ approvers).eraseDups
    approvers
    hasOverride
    bootstrapping := state.any Prod.snd
    globalOwners := config.globalOwners.map fun email => { email } }

/-!
# The status of a path
-/

def isProjectOwner (engine : Engine) (context : StatusContext) (id : Int) : Bool :=
  engine.permissions.isProjectOwner context.project id

def bootstrapStatus (engine : Engine) (context : StatusContext) (path : String) : PathStatus :=
  let isOwner := engine.isProjectOwner context
  if isOwner context.uploader then
    { path, status := .approved, reason := some "the patch set uploader is a project owner" }
  else if context.approvers.any isOwner then
    { path, status := .approved, reason := some "a project owner approved the change" }
  else if context.reviewers.any isOwner then
    { path, status := .pending, reason := some "a project owner is a reviewer" }
  else
    { path, status := .insufficientReviewers, reason := some "no project owner is a reviewer" }

/-- What is known about a path during a walk. -/
structure Progress where
  status : OwnerStatus := .insufficientReviewers
  reason : String := "no code owner is a reviewer"
  ignoresGlobal : Bool := false
  decided : Bool := false
deriving DecidableEq, Repr

def Progress.take (progress : Progress) (step : FoldStep) (place : String) : Progress :=
  { progress with
    status := step.status
    reason := match step.reason with
      | some reason => reason ++ " (" ++ place ++ ")"
      | none => progress.reason
    decided := !step.keepsWalking }

def visitLevel (engine : Engine) (context : StatusContext) (path : String) (progress : Progress)
    (level : Hierarchy.Level) : Walk (ForInStep Progress) := do
  let owners ← liftExcept ((engine.resolver.pathOwners level.config path).mapError Failure.path)
  let ignoresGlobal ←
    if progress.ignoresGlobal then pure true
    else liftExcept ((level.ignoresGlobalOwners path).mapError Failure.path)
  let progress := { progress with ignoresGlobal }.take (foldLevel progress.status owners context)
    level.folder
  return if progress.decided then .done progress else .yield progress

def regularStatus (engine : Engine) (context : StatusContext) (path : String) :
    Walk PathStatus := do
  match context.revision with
  | none => throw (.tree (.noRevision context.project context.branch))
  | some revision =>
      let place : Hierarchy.Place :=
        { project := context.project, branch := context.branch, revision, path }
      let progress ← Hierarchy.visitLevels engine.site place {} (engine.visitLevel context path)
      let progress :=
        if progress.decided || progress.ignoresGlobal || context.globalOwners.isEmpty then progress
        else
          let owners := engine.resolver.resolve context.globalOwners
          progress.take (foldLevel progress.status owners context) "global code owners"
      return { path, status := progress.status, reason := some progress.reason }

def pathStatus (engine : Engine) (context : StatusContext) (path : String) : Walk PathStatus :=
  if context.hasOverride then
    return { path, status := .approved, reason := some "override approval is present" }
  else if context.bootstrapping then return engine.bootstrapStatus context path
  else engine.regularStatus context path

def fileStatus (engine : Engine) (context : StatusContext) (file : ChangedFile) :
    Walk FileStatus := do
  let statusOf (path : Option String) : Walk (Option PathStatus) :=
    match path with
    | some path => some <$> engine.pathStatus context path
    | none => return none
  let new ← statusOf file.newPath
  let old ← statusOf (if file.requiresOldPath then file.oldPath else none)
  return { file, new, old }

/-!
# The status of a change
-/

/-- The files to evaluate and their context; nothing where ownership is switched off. -/
def evaluation? (engine : Engine) (change : Change) :
    Except Failure (Option (StatusContext × List ChangedFile)) := do
  if (engine.config change.project).isDisabled change.branch then return none
  else
    let context ← engine.context change
    let files ← engine.changedFiles change.project change.currentRevision change.baseRevision
    return some (context, files)

def checkRevision (change : Change) (revision : Option String) : Except Failure Unit :=
  if revision.all fun revision => revision = change.currentRevision then .ok ()
  else .error (.notCurrentRevision change.number change.currentRevision)

def fileStatuses (engine : Engine) (change : Change) (revision : Option String) :
    Walk (List FileStatus) := do
  liftExcept (checkRevision change revision)
  match ← liftExcept (engine.evaluation? change) with
  | none => return []
  | some (context, files) => files.mapM (engine.fileStatus context)

def allApproved (engine : Engine) (context : StatusContext) : List ChangedFile → Walk Bool
  | [] => return true
  | file :: rest => do
      let status ← engine.fileStatus context file
      if status.isApproved then engine.allApproved context rest else return false

def isSubmittable (engine : Engine) (change : Change) : Walk Bool := do
  match ← liftExcept (engine.evaluation? change) with
  | none => return true
  | some (context, files) => engine.allApproved context files

end Engine
end Ownership
