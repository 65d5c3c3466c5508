import Ownership.Approval.Owned
import Ownership.Proofs.Recall

/-!
# The walks of the library

Following imports, climbing, evaluating a change and looking for the paths of an owner: each of
these walks does no more to its session than load configurations.
-/

namespace Ownership

open Walk

variable {β : Type} {site : Site}

/-!
# Imports
-/

namespace Hierarchy

theorem loads_loadImport (site : Site) (pending : Pending) :
    Loads site.tree (loadImport site pending) := by
  unfold loadImport
  apply Loads.bind (loads_liftExcept _)
  intro head?
  cases head? with
  | none => exact .done none
  | some revision =>
      apply Loads.bind (loads_liftExcept _)
      intro key
      apply Loads.bind (loads_liftExcept _)
      intro backend
      apply Loads.bind (loads_loadOrSkip backend key revision)
      intro config
      exact .done _

/-- A round after its first import, which has led to a configuration or not. -/
def followFound (site : Site) (expansion : Expansion) (pending : Pending) (rest : List Pending) :
    Option (OwnerConfig × String) → Walk (Expansion × List Pending)
  | none => followRound site expansion rest
  | some (config, revision) =>
      followRound site (expansion.add pending.imp.scope config) rest >>= fun (expansion, later) =>
        pure (expansion, nextImports pending.imp.scope config revision ++ later)

theorem followRound_cons (site : Site) (expansion : Expansion) (pending : Pending)
    (rest : List Pending) : followRound site expansion (pending :: rest) =
      loadImport site pending >>= followFound site expansion pending rest := rfl

theorem loads_followRound (site : Site) (expansion : Expansion) (round : List Pending) :
    Loads site.tree (followRound site expansion round) := by
  induction round generalizing expansion with
  | nil => exact .done _
  | cons pending rest ih =>
      rw [followRound_cons]
      apply Loads.bind (loads_loadImport site pending)
      intro imported
      cases imported with
      | none => exact ih expansion
      | some found => exact (ih _).bind fun _ => .done _

theorem loads_followFound (site : Site) (expansion : Expansion) (pending : Pending)
    (rest : List Pending) (found : Option (OwnerConfig × String)) :
    Loads site.tree (followFound site expansion pending rest found) := by
  cases found with
  | none => exact loads_followRound site expansion rest
  | some target => exact (loads_followRound site _ rest).bind fun _ => .done _

theorem loads_followRounds (site : Site) (expansion : Expansion) (round : List Pending)
    (rounds : Nat) : Loads site.tree (followRounds site expansion round rounds) := by
  induction rounds generalizing expansion round with
  | zero => exact .done expansion
  | succ rounds ih =>
      unfold followRounds
      split
      · exact .done expansion
      · exact (loads_followRound site expansion round).bind fun _ => ih _ _

theorem loads_expandImports (site : Site) (config : OwnerConfig) (revision : String)
    (depth : Nat) : Loads site.tree (expandImports site config revision depth) := by
  unfold expandImports
  split
  · exact .done config
  · exact (loads_followRounds site _ _ depth).bind fun _ => .done _

/-!
# Climbs

A climb is made of loads when what is done at each level is.
-/

theorem loads_levelAt? (site : Site) (climb : Climb) (folder : String) (distance : Nat) :
    Loads site.tree (levelAt? site climb folder distance) := by
  apply Loads.bind (loads_liftExcept _)
  intro key
  apply Loads.bind (loads_loadOrSkip _ key _)
  intro config
  cases config with
  | none => exact .done none
  | some config => exact (loads_expandImports site config _ _).bind fun _ => .done _

theorem loads_isLast (site : Site) (climb : Climb) (level : Level) :
    Loads site.tree (isLast climb level) :=
  loads_liftExcept _

theorem visitFolders_cons (climb : Climb) (visit : β → Level → Walk (ForInStep β))
    (distance : Nat) (folder : String) (rest : List String) (state : β) :
    visitFolders site climb visit distance (folder :: rest) state =
      (levelAt? site climb folder distance >>= fun
        | none => visitFolders site climb visit (distance + 1) rest state
        | some level => visit state level >>= fun
          | .done state => pure state
          | .yield state => isLast climb level >>= fun last =>
              if last then pure state
              else visitFolders site climb visit (distance + 1) rest state) := rfl

theorem loads_visitFolders {climb : Climb} {visit : β → Level → Walk (ForInStep β)}
    (hvisit : ∀ state level, Loads site.tree (visit state level)) (distance : Nat)
    (folders : List String) (state : β) :
    Loads site.tree (visitFolders site climb visit distance folders state) := by
  induction folders generalizing distance state with
  | nil => exact .done state
  | cons folder rest ih =>
      rw [visitFolders_cons]
      apply Loads.bind (loads_levelAt? site climb folder distance)
      intro found
      cases found with
      | none => exact ih (distance + 1) state
      | some level =>
          apply Loads.bind (hvisit state level)
          intro step
          cases step with
          | done state => exact .done state
          | yield state =>
              apply Loads.bind (loads_isLast site climb level)
              intro last
              split
              · exact .done state
              · exact ih (distance + 1) state

theorem loads_visitLevels {visit : β → Level → Walk (ForInStep β)}
    (hvisit : ∀ state level, Loads site.tree (visit state level)) (place : Place) (start : β) :
    Loads site.tree (visitLevels site place start visit) := by
  apply Loads.bind (loads_liftExcept _)
  intro climb
  exact loads_visitFolders hvisit 0 climb.folders start

end Hierarchy

/-!
# Changes
-/

namespace Engine

variable {engine : Engine} {context : StatusContext}

theorem loads_visitLevel (engine : Engine) (context : StatusContext) (path : String)
    (progress : Progress) (level : Hierarchy.Level) :
    Loads engine.site.tree (engine.visitLevel context path progress level) := by
  unfold visitLevel
  apply Loads.bind (loads_liftExcept _)
  intro owners
  split
  · exact .done _
  · exact (loads_liftExcept _).bind fun _ => .done _

theorem loads_regularStatus (engine : Engine) (context : StatusContext) (path : String) :
    Loads engine.site.tree (engine.regularStatus context path) := by
  unfold regularStatus
  split
  · exact .fail _
  · apply Loads.bind
    · exact Hierarchy.loads_visitLevels (engine.loads_visitLevel context path) _ _
    · intro progress
      exact .done _

theorem loads_pathStatus (engine : Engine) (context : StatusContext) (path : String) :
    Loads engine.site.tree (engine.pathStatus context path) := by
  unfold pathStatus
  split
  · exact .done _
  · split
    · exact .done _
    · exact engine.loads_regularStatus context path

/-- The status of a path that a file may lack. -/
def statusOf (engine : Engine) (context : StatusContext) :
    Option String → Walk (Option PathStatus)
  | some path => some <$> engine.pathStatus context path
  | none => pure none

theorem fileStatus_eq (engine : Engine) (context : StatusContext) (file : ChangedFile) :
    engine.fileStatus context file =
      (engine.statusOf context file.newPath >>= fun new =>
        engine.statusOf context (if file.requiresOldPath then file.oldPath else none) >>=
          fun old => pure { file, new, old }) := rfl

theorem loads_statusOf (engine : Engine) (context : StatusContext) (path : Option String) :
    Loads engine.site.tree (engine.statusOf context path) := by
  cases path with
  | none => exact .done none
  | some path => exact (engine.loads_pathStatus context path).map some

theorem loads_fileStatus (engine : Engine) (context : StatusContext) (file : ChangedFile) :
    Loads engine.site.tree (engine.fileStatus context file) := by
  rw [fileStatus_eq]
  apply Loads.bind (engine.loads_statusOf context file.newPath)
  intro new
  apply Loads.bind (engine.loads_statusOf context _)
  intro old
  exact .done _

def statusesOf (engine : Engine) :
    Option (StatusContext × List ChangedFile) → Walk (List FileStatus)
  | none => pure []
  | some (context, files) => files.mapM (engine.fileStatus context)

theorem fileStatuses_eq (engine : Engine) (change : Change) (revision : Option String) :
    engine.fileStatuses change revision =
      (liftExcept (checkRevision change revision) >>= fun _ =>
        liftExcept (engine.evaluation? change) >>= engine.statusesOf) := rfl

theorem loads_statusesOf (engine : Engine)
    (evaluation : Option (StatusContext × List ChangedFile)) :
    Loads engine.site.tree (engine.statusesOf evaluation) := by
  cases evaluation with
  | none => exact .done []
  | some evaluation => exact Loads.mapM (engine.loads_fileStatus evaluation.1) evaluation.2

theorem loads_fileStatuses (engine : Engine) (change : Change) (revision : Option String) :
    Loads engine.site.tree (engine.fileStatuses change revision) := by
  rw [fileStatuses_eq]
  apply Loads.bind (loads_liftExcept _)
  intro _
  exact (loads_liftExcept _).bind engine.loads_statusesOf

theorem loads_allApproved (engine : Engine) (context : StatusContext) (files : List ChangedFile) :
    Loads engine.site.tree (engine.allApproved context files) := by
  induction files with
  | nil => exact .done true
  | cons file rest ih =>
      apply Loads.bind (engine.loads_fileStatus context file)
      intro status
      split
      · exact ih
      · exact .done false

theorem loads_isSubmittable (engine : Engine) (change : Change) :
    Loads engine.site.tree (engine.isSubmittable change) := by
  apply Loads.bind (loads_liftExcept _)
  intro evaluation
  cases evaluation with
  | none => exact .done true
  | some evaluation => exact engine.loads_allApproved evaluation.1 evaluation.2

/-!
# Owned paths
-/

theorem loads_searchLevel (engine : Engine) (path : String) (id : Int) (search : Search)
    (level : Hierarchy.Level) :
    Loads engine.site.tree (engine.searchLevel path id search level) := by
  unfold searchLevel
  apply Loads.bind (loads_liftExcept _)
  intro owners
  split
  · exact .done _
  · split
    · exact .done _
    · exact (loads_liftExcept _).bind fun _ => .done _

theorem loads_isOwner (engine : Engine) (context : StatusContext) (path : String) (id : Int) :
    Loads engine.site.tree (engine.isOwner context path id) := by
  unfold isOwner
  split
  · exact .done _
  · apply Loads.bind (loads_liftExcept _)
    intro revision
    apply Loads.bind
    · exact Hierarchy.loads_visitLevels (engine.loads_searchLevel path id) _ _
    · intro search
      split
      · exact .done true
      · split
        · exact .done false
        · exact .done _

theorem loads_ownedAmong (engine : Engine) (context : StatusContext) (id : Int)
    (paths : List String) : Loads engine.site.tree (engine.ownedAmong context id paths) := by
  induction paths with
  | nil => exact .done []
  | cons path rest ih =>
      apply Loads.bind (engine.loads_isOwner context path id)
      intro owns
      exact ih.bind fun _ => .done _

theorem loads_ownedPaths (engine : Engine) (change : Change) (id start : Int)
    (limit : Option Int) : Loads engine.site.tree (engine.ownedPaths change id start limit) := by
  apply Loads.bind (loads_liftExcept _)
  intro evaluation
  cases evaluation with
  | none => exact .done []
  | some evaluation =>
      exact (engine.loads_ownedAmong evaluation.1 id _).bind fun _ => .done _

end Engine
end Ownership
