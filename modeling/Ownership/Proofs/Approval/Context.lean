import Ownership.Proofs.Approval.Survey

/-!
# The context of a change

A context holds what the votes on a change come to: who approves, who reviews, and whether there is
an override.
-/

namespace Ownership

namespace Engine

variable {engine : Engine} {change : Change} {context : StatusContext} {id : Int}

/-!
# Votes
-/

/-- The account has given an approval that meets the required one. -/
def Approves (engine : Engine) (change : Change) (id : Int) : Prop :=
  ∃ required, (engine.config change.project).required = .ok required ∧
    ∃ approval ∈ change.approvals, required.isMetBy approval = true ∧ approval.accountId = id

/-- There is an approval that meets the override of the project. -/
def HasOverride (engine : Engine) (change : Change) : Prop :=
  ∃ override, (engine.config change.project).override? = .ok (some override) ∧
    ∃ approval ∈ change.approvals, override.isMetBy approval = true

/-!
# The parts of a context
-/

def approversOf (required : RequiredApproval) (approvals : List Approval) : List Int :=
  ((approvals.filter required.isMetBy).map Approval.accountId).eraseDups

def overrides (override : Option RequiredApproval) (approvals : List Approval) : Bool :=
  override.any fun required => approvals.any required.isMetBy

def stateOf (engine : Engine) (change : Change) (overridden : Bool) :
    Except Failure (Option (String × Bool)) :=
  if overridden then .ok none else some <$> engine.branchState change.project change.branch

def contextOf (engine : Engine) (change : Change) (required : RequiredApproval)
    (override : Option RequiredApproval) (state : Option (String × Bool)) : StatusContext where
  project := change.project
  branch := change.branch
  revision := state.map Prod.fst
  uploader := change.uploader
  reviewers := (change.reviewers ++ approversOf required change.approvals).eraseDups
  approvers := approversOf required change.approvals
  hasOverride := overrides override change.approvals
  bootstrapping := state.any Prod.snd
  globalOwners := (engine.config change.project).globalOwners.map fun email => { email }

theorem context_eq (engine : Engine) (change : Change) : engine.context change =
    ((engine.config change.project).required.mapError (.projectConfig change.project) >>=
      fun required =>
        (engine.config change.project).override?.mapError (.projectConfig change.project) >>=
          fun override => engine.stateOf change (overrides override change.approvals) >>=
            fun state => pure (engine.contextOf change required override state)) := by
  unfold Engine.context
  dsimp only
  congr
  funext required
  congr
  funext override
  unfold stateOf
  change (if overrides override change.approvals = true then _ else _) = _
  cases overrides override change.approvals <;> rfl

theorem context_eq_ok : engine.context change = .ok context ↔
    ∃ required override state, (engine.config change.project).required = .ok required ∧
      (engine.config change.project).override? = .ok override ∧
      engine.stateOf change (overrides override change.approvals) = .ok state ∧
      context = engine.contextOf change required override state := by
  rw [context_eq]
  constructor
  · intro h
    rcases except_bind_eq_ok.mp h with ⟨required, hrequired, hrest⟩
    rcases except_bind_eq_ok.mp hrest with ⟨override, hoverride, hrest⟩
    rcases except_bind_eq_ok.mp hrest with ⟨state, hstate, hrest⟩
    cases hrest
    exact ⟨required, override, state, except_mapError_eq_ok.mp hrequired,
      except_mapError_eq_ok.mp hoverride, hstate, rfl⟩
  · intro hsome
    rcases hsome with ⟨required, override, state, hrequired, hoverride, hstate, rfl⟩
    refine except_bind_eq_ok.mpr ⟨required, except_mapError_eq_ok.mpr hrequired, ?_⟩
    refine except_bind_eq_ok.mpr ⟨override, except_mapError_eq_ok.mpr hoverride, ?_⟩
    exact except_bind_eq_ok.mpr ⟨state, hstate, rfl⟩

theorem mem_approversOf {required : RequiredApproval} {approvals : List Approval} :
    id ∈ approversOf required approvals ↔
      ∃ approval ∈ approvals, required.isMetBy approval = true ∧ approval.accountId = id := by
  unfold approversOf
  rw [List.mem_eraseDups, List.mem_map]
  constructor
  · intro h
    rcases h with ⟨approval, hmem, hid⟩
    rcases List.mem_filter.mp hmem with ⟨hmem, hmet⟩
    exact ⟨approval, hmem, hmet, hid⟩
  · intro h
    rcases h with ⟨approval, hmem, hmet, hid⟩
    exact ⟨approval, List.mem_filter.mpr ⟨hmem, hmet⟩, hid⟩

theorem overrides_iff {override : Option RequiredApproval} {approvals : List Approval} :
    overrides override approvals = true ↔
      ∃ required, override = some required ∧
        ∃ approval ∈ approvals, required.isMetBy approval = true := by
  unfold overrides
  cases override with
  | none => simp
  | some required => simp

theorem context_votersReview (h : engine.context change = .ok context) :
    context.VotersReview := by
  rcases context_eq_ok.mp h with ⟨required, override, state, _, _, _, rfl⟩
  intro id hid
  exact List.mem_eraseDups.mpr (List.mem_append_right _ hid)

theorem context_isVoter_iff (h : engine.context change = .ok context) :
    context.IsVoter id ↔ id = change.uploader ∨ engine.Approves change id := by
  rcases context_eq_ok.mp h with ⟨required, override, state, hrequired, _, _, rfl⟩
  unfold StatusContext.IsVoter Approves
  rw [hrequired]
  simp [contextOf, mem_approversOf]

theorem context_reviewer_iff (h : engine.context change = .ok context) :
    id ∈ context.reviewers ↔ id ∈ change.reviewers ∨ id ∈ context.approvers := by
  rcases context_eq_ok.mp h with ⟨required, override, state, _, _, _, rfl⟩
  simp [contextOf, List.mem_eraseDups]

theorem exists_voter_iff {P : Int → Prop} (h : engine.context change = .ok context) :
    (∃ id, context.IsVoter id ∧ P id) ↔
      ∃ id, (id = change.uploader ∨ engine.Approves change id) ∧ P id :=
  exists_congr fun _ => and_congr_left fun _ => context_isVoter_iff h

theorem exists_reviewer_iff {P : Int → Prop} (h : engine.context change = .ok context)
    (hnone : ∀ id, context.IsVoter id → ¬ P id) :
    (∃ id ∈ context.reviewers, P id) ↔ ∃ id ∈ change.reviewers, P id := by
  constructor
  · intro hsome
    rcases hsome with ⟨id, hid, hP⟩
    rcases (context_reviewer_iff h).mp hid with hreviewer | happrover
    · exact ⟨id, hreviewer, hP⟩
    · exact absurd hP (hnone id (.inr happrover))
  · intro hsome
    rcases hsome with ⟨id, hid, hP⟩
    exact ⟨id, (context_reviewer_iff h).mpr (.inl hid), hP⟩

theorem context_hasOverride_iff (h : engine.context change = .ok context) :
    context.hasOverride = true ↔ engine.HasOverride change := by
  rcases context_eq_ok.mp h with ⟨required, override, state, _, hoverride, _, rfl⟩
  unfold HasOverride
  rw [hoverride]
  change overrides override change.approvals = true ↔ _
  rw [overrides_iff]
  simp

end Engine
end Ownership
