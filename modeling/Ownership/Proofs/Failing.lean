import Ownership.Proofs.Tree.Revisions
import Ownership.Proofs.Walks

/-!
# How walks fail

Loading, following imports and climbing fail for few reasons: the tree fails, or a path, a setting
or a field that is built on the way is refused.  A file that cannot be read as a configuration is
no reason.
-/

namespace Ownership

variable {tree : Tree} {α β : Type}

/-- The failures that a walk over a tree can end with. -/
inductive Failure.OfWalk (tree : Tree) : Failure → Prop
  | path (error : PathError) : OfWalk tree (.path error)
  | field (name : String) (error : PathError) : OfWalk tree (.field name error)
  | setting (error : RegistryError) : OfWalk tree (.registry error)
  | head {project branch : String} {failure : Failure}
      (h : tree.branchHead project branch = .error failure) : OfWalk tree failure
  | content {project revision path : String} {failure : Failure}
      (h : tree.contentOf project revision path = .error failure) : OfWalk tree failure

theorem Failure.OfWalk.ne_revision {history : History} {failure : Failure}
    (h : failure.OfWalk history.tree) (error : RevisionError) : failure ≠ .revision error := by
  cases h with
  | path _ => exact nofun
  | field _ _ => exact nofun
  | setting _ => exact nofun
  | head hhead => cases hhead
  | content hcontent =>
      rcases History.failure_of_contentOf hcontent with ⟨_, rfl⟩ | ⟨_, rfl⟩
      · exact nofun
      · exact nofun

/-!
# Steps
-/

namespace Walk

/-- Whenever the walk fails, it fails like a walk over the tree. -/
def FailsLike (tree : Tree) (walk : Walk α) : Prop :=
  ∀ s failure t, walk.run s = (.error failure, t) → failure.OfWalk tree

theorem failsLike_pure (a : α) : FailsLike tree (pure a : Walk α) := by
  intro s failure t h
  cases h

theorem failsLike_liftExcept {result : Except Failure α}
    (h : ∀ failure, result = .error failure → failure.OfWalk tree) :
    FailsLike tree (liftExcept result) := by
  intro s failure t hrun
  rw [run_liftExcept] at hrun
  exact h failure (congrArg Prod.fst hrun)

theorem failsLike_check {ε : Type} {tell : ε → Failure} (result : Except ε α)
    (h : ∀ error, (tell error).OfWalk tree) :
    FailsLike tree (liftExcept (result.mapError tell)) := by
  apply failsLike_liftExcept
  intro failure hfailure
  cases result with
  | ok a => cases hfailure
  | error error =>
      cases hfailure
      exact h error

theorem FailsLike.bind {x : Walk α} {f : α → Walk β} (hx : FailsLike tree x)
    (hf : ∀ a, FailsLike tree (f a)) : FailsLike tree (x >>= f) := by
  intro s failure t hrun
  rcases run_bind_eq_error.mp hrun with hfirst | ⟨a, mid, _, hrest⟩
  · exact hx s failure t hfirst
  · exact hf a mid failure t hrest

theorem failsLike_loadOrSkip (backend : Backend) (key : ConfigKey) (revision : String) :
    FailsLike tree (Loader.loadOrSkip tree backend key revision) := by
  intro s failure t hrun
  cases Loader.loading_of_run hrun with
  | unreadable _ hread _ => exact .content (Loader.contentOf_of_readFresh_error hread)

end Walk

open Walk

theorem Site.failsLike_backendFor (site : Site) (project branch : String) :
    FailsLike tree (liftExcept (site.backendFor project branch)) :=
  failsLike_check _ .setting

/-!
# Imports and climbs
-/

namespace Hierarchy

variable {site : Site}

theorem failsLike_loadImport (site : Site) (pending : Pending) :
    FailsLike site.tree (loadImport site pending) := by
  unfold loadImport
  apply FailsLike.bind
  · apply failsLike_liftExcept
    intro failure h
    unfold importRevision at h
    split at h
    · cases h
    · exact .head h
  intro head?
  cases head? with
  | none => exact failsLike_pure none
  | some revision =>
      apply FailsLike.bind
      · unfold importKey
        rw [liftExcept_bind]
        apply (failsLike_check _ .path).bind
        intro folder
        exact failsLike_check _ (.field "folder_path")
      intro key
      apply (site.failsLike_backendFor _ _).bind
      intro backend
      apply (failsLike_loadOrSkip backend key revision).bind
      intro config
      exact failsLike_pure _

theorem failsLike_followRound (site : Site) (expansion : Expansion) (round : List Pending) :
    FailsLike site.tree (followRound site expansion round) := by
  induction round generalizing expansion with
  | nil => exact failsLike_pure _
  | cons pending rest ih =>
      rw [followRound_cons]
      apply (failsLike_loadImport site pending).bind
      intro imported
      cases imported with
      | none => exact ih expansion
      | some found => exact (ih _).bind fun _ => failsLike_pure _

theorem failsLike_followRounds (site : Site) (expansion : Expansion) (round : List Pending)
    (rounds : Nat) : FailsLike site.tree (followRounds site expansion round rounds) := by
  induction rounds generalizing expansion round with
  | zero => exact failsLike_pure expansion
  | succ rounds ih =>
      unfold followRounds
      split
      · exact failsLike_pure expansion
      · exact (failsLike_followRound site expansion round).bind fun _ => ih _ _

theorem failsLike_expandImports (site : Site) (config : OwnerConfig) (revision : String)
    (depth : Nat) : FailsLike site.tree (expandImports site config revision depth) := by
  unfold expandImports
  split
  · exact failsLike_pure config
  · exact (failsLike_followRounds site _ _ depth).bind fun _ => failsLike_pure _

theorem failsLike_levelAt? (site : Site) (climb : Climb) (folder : String) (distance : Nat) :
    FailsLike site.tree (levelAt? site climb folder distance) := by
  apply (failsLike_check _ (.field "folder_path")).bind
  intro key
  apply (failsLike_loadOrSkip _ key _).bind
  intro config
  cases config with
  | none => exact failsLike_pure none
  | some config => exact (failsLike_expandImports site config _ _).bind fun _ => failsLike_pure _

theorem failsLike_visitFolders {climb : Climb} {visit : β → Level → Walk (ForInStep β)}
    (hvisit : ∀ state level, FailsLike site.tree (visit state level)) (distance : Nat)
    (folders : List String) (state : β) :
    FailsLike site.tree (visitFolders site climb visit distance folders state) := by
  induction folders generalizing distance state with
  | nil => exact failsLike_pure state
  | cons folder rest ih =>
      rw [visitFolders_cons]
      apply (failsLike_levelAt? site climb folder distance).bind
      intro found
      cases found with
      | none => exact ih (distance + 1) state
      | some level =>
          apply (hvisit state level).bind
          intro step
          cases step with
          | done state => exact failsLike_pure state
          | yield state =>
              apply FailsLike.bind (failsLike_check _ .path)
              intro last
              split
              · exact failsLike_pure state
              · exact ih (distance + 1) state

theorem failsLike_prepare (site : Site) (place : Place) :
    FailsLike tree (liftExcept (prepare site place)) := by
  unfold prepare
  rw [liftExcept_bind]
  apply (failsLike_check _ .path).bind
  intro path
  rw [liftExcept_bind]
  apply (site.failsLike_backendFor _ _).bind
  intro backend
  rw [liftExcept_bind]
  apply FailsLike.bind
  · unfold Site.configFileName
    rw [liftExcept_bind]
    exact (site.failsLike_backendFor _ _).bind fun _ => failsLike_pure _
  intro fileName
  rw [liftExcept_bind]
  apply (failsLike_check _ .path).bind
  intro folders
  exact failsLike_pure _

/-- A climb adds no reasons for failing to those of its visitor. -/
theorem failsLike_visitLevels {visit : β → Level → Walk (ForInStep β)}
    (hvisit : ∀ state level, FailsLike site.tree (visit state level)) (place : Place) (start : β) :
    FailsLike site.tree (visitLevels site place start visit) := by
  apply (failsLike_prepare site place).bind
  intro climb
  exact failsLike_visitFolders hvisit 0 climb.folders start

end Hierarchy
end Ownership
