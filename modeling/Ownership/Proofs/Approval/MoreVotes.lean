import Mathlib.Data.List.Forall2
import Ownership.Proofs.Approval.Agreement

/-!
# More votes

In sessions that can be compared, approvals and reviewers that are added to a change never lower the
status of a path.  With more votes a walk may stop at an earlier level, and there may be an override,
so the two evaluations do not run in step.  But whatever the second one asks for, the first has asked
for before.
-/

namespace Ownership

open Walk Hierarchy

/-!
# Additional votes
-/

/-- The second change has more approvals and reviewers, and is the same otherwise. -/
structure Change.AddsVotes (first second : Change) : Prop where
  rest : second = { first with approvals := second.approvals, reviewers := second.reviewers }
  approvals : ∀ approval ∈ first.approvals, approval ∈ second.approvals
  reviewers : ∀ id ∈ first.reviewers, id ∈ second.reviewers

structure StatusContext.AddsVotes (first second : StatusContext) : Prop where
  rest : second = { first with approvers := second.approvers, reviewers := second.reviewers }
  approvers : ∀ id ∈ first.approvers, id ∈ second.approvers
  reviewers : ∀ id ∈ first.reviewers, id ∈ second.reviewers

/-- What additional votes may make of a context: they bring an override, or approvers and
reviewers. -/
structure StatusContext.RisesTo (first second : StatusContext) : Prop where
  first_reviews : first.VotersReview
  second_reviews : second.VotersReview
  votes : second.hasOverride = true ∨ first.AddsVotes second

theorem StatusContext.AddsVotes.isVoter {context raised : StatusContext} {id : Int}
    (h : context.AddsVotes raised) (hvoter : context.IsVoter id) : raised.IsVoter id := by
  rcases hvoter with rfl | happrover
  · left
    rw [h.rest]
  · exact .inr (h.approvers id happrover)

theorem OwnerStatus.insufficientReviewers_le (status : OwnerStatus) :
    OwnerStatus.insufficientReviewers ≤ status := by
  cases status <;> decide

theorem OwnerStatus.le_approved (status : OwnerStatus) : status ≤ .approved := by
  cases status <;> decide

theorem OwnerStatus.eq_approved_of_le {status : OwnerStatus} (h : .approved ≤ status) :
    status = .approved := by
  revert h
  cases status <;> decide

/-- With more votes, the same answers mean a status that is at least as high. -/
theorem Verdict.le {context raised : StatusContext} {answers : Int → Bool → Prop}
    {status higher : OwnerStatus} (hvotes : context.AddsVotes raised)
    (hunique : ∀ id, answers id true → ¬ answers id false) (h : Verdict context answers status)
    (h' : Verdict raised answers higher) : status ≤ higher := by
  cases h with
  | insufficientReviewers _ _ => exact higher.insufficientReviewers_le
  | approved hvoter howns =>
      have happroved : higher = .approved :=
        (h'.approved_iff hunique).mpr ⟨_, hvotes.isVoter hvoter, howns⟩
      rw [happroved]
      exact OwnerStatus.le_approved _
  | pending _ hreviewer howns =>
      cases h' with
      | approved _ _ => exact OwnerStatus.le_approved _
      | pending _ _ _ => exact Nat.le_refl _
      | insufficientReviewers _ hnone =>
          exact absurd (hnone _ (hvotes.reviewers _ hreviewer)) (hunique _ howns)

namespace Engine

variable {engine : Engine} {first second : Change} {context raised : StatusContext}
  {path : String} {level : Level} {s s' t t' : Session}

/-!
# The context with more votes
-/

theorem overrides_mono {override : Option RequiredApproval} {few many : List Approval}
    (hmore : ∀ approval ∈ few, approval ∈ many) (h : overrides override few = true) :
    overrides override many = true := by
  rcases overrides_iff.mp h with ⟨required, hrequired, approval, hmem, hmet⟩
  exact overrides_iff.mpr ⟨required, hrequired, approval, hmore approval hmem, hmet⟩

theorem context_of_addsVotes (hvotes : first.AddsVotes second)
    (h : engine.context first = .ok context) :
    ∃ raised, engine.context second = .ok raised ∧
      (raised.hasOverride = true ∨ context.AddsVotes raised) := by
  rcases context_eq_ok.mp h with ⟨required, override, state, hrequired, hoverride, hstate, rfl⟩
  have hproject : second.project = first.project := by rw [hvotes.rest]
  have hbranch : second.branch = first.branch := by rw [hvotes.rest]
  have huploader : second.uploader = first.uploader := by rw [hvotes.rest]
  cases hover : overrides override second.approvals with
  | true =>
      refine ⟨engine.contextOf second required override none, ?_, .inl hover⟩
      rw [context_eq_ok, hproject]
      refine ⟨required, override, none, hrequired, hoverride, ?_, rfl⟩
      rw [hover]
      rfl
  | false =>
      have hnot : overrides override first.approvals = false := by
        apply Bool.eq_false_iff.mpr
        intro hfirst
        rw [overrides_mono hvotes.approvals hfirst] at hover
        cases hover
      have happrovers : ∀ id ∈ approversOf required first.approvals,
          id ∈ approversOf required second.approvals := by
        intro id hid
        rcases mem_approversOf.mp hid with ⟨approval, hmem, hmet⟩
        exact mem_approversOf.mpr ⟨approval, hvotes.approvals approval hmem, hmet⟩
      refine ⟨engine.contextOf second required override state, ?_, .inr ⟨?_, happrovers, ?_⟩⟩
      · rw [hnot] at hstate
        rw [context_eq_ok, hproject]
        refine ⟨required, override, state, hrequired, hoverride, ?_, rfl⟩
        rw [hover]
        unfold stateOf at *
        rw [hproject, hbranch]
        exact hstate
      · unfold contextOf
        rw [hproject, hbranch, huploader, hover, hnot]
      · intro id hid
        rcases List.mem_append.mp (List.mem_eraseDups.mp hid) with hreviewer | happrover
        · exact List.mem_eraseDups.mpr (List.mem_append_left _ (hvotes.reviewers id hreviewer))
        · exact List.mem_eraseDups.mpr (List.mem_append_right _ (happrovers id happrover))

theorem context_rises (hvotes : first.AddsVotes second) (h : engine.context first = .ok context) :
    ∃ raised, engine.context second = .ok raised ∧ context.RisesTo raised := by
  rcases context_of_addsVotes hvotes h with ⟨raised, hraised, hraise⟩
  exact ⟨raised, hraised, context_votersReview h, context_votersReview hraised, hraise⟩

/-!
# Climbing with more votes
-/

/-- At a level that lets a walk pass, one with more votes passes too or stops; where a walk stops,
the other does. -/
theorem statusStep_of_addsVotes {progress progress' : Progress} {step : ForInStep Progress}
    (hvotes : context.AddsVotes raised) (hreview : raised.VotersReview)
    (hsame : progress'.ignoresGlobal = progress.ignoresGlobal)
    (h : engine.statusStep context path progress level = .ok step) :
    (∃ final, engine.statusStep raised path progress' level = .ok (.done final)) ∨
      ∃ next next', step = .yield next ∧
        engine.statusStep raised path progress' level = .ok (.yield next') ∧
        next'.ignoresGlobal = next.ignoresGlobal := by
  rcases sees_of_statusStep h with ⟨owners, ignores, hsees⟩
  have hsees' : engine.Sees path progress'.ignoresGlobal level owners ignores := by
    rw [hsame]
    exact hsees
  have hraised := statusStep_of_sees raised hsees'
  rcases exists_voter_or_none owners raised with ⟨id, hvoter, hhas⟩ | hnone
  · left
    rw [(weigh_of_voter progress' level ignores hreview hvoter hhas).1] at hraised
    exact ⟨_, hraised⟩
  · right
    have hnone' : ∀ id, context.IsVoter id → owners.has id = false :=
      fun id hvoter => hnone id (hvotes.isVoter hvoter)
    rw [statusStep_of_sees context hsees, (weigh_of_no_voter progress level ignores hnone').1] at h
    rw [(weigh_of_no_voter progress' level ignores hnone).1] at hraised
    cases h
    exact ⟨_, _, rfl, hraised, rfl⟩

theorem visitAll_of_addsVotes {levels : List Level} {progress progress' : Progress}
    {step : ForInStep Progress} (hvotes : context.AddsVotes raised)
    (hreview : raised.VotersReview) (hsame : progress'.ignoresGlobal = progress.ignoresGlobal)
    (h : visitAll (engine.statusStep context path) progress levels = .ok step) :
    (∃ final, visitAll (engine.statusStep raised path) progress' levels = .ok (.done final)) ∨
      ∃ last last', step = .yield last ∧
        visitAll (engine.statusStep raised path) progress' levels = .ok (.yield last') := by
  induction levels generalizing progress progress' with
  | nil =>
      cases h
      exact .inr ⟨progress, progress', rfl, rfl⟩
  | cons level rest ih =>
      rcases visitAll_cons_eq_ok h with ⟨final, hstep, rfl⟩ | ⟨next, hstep, hrest⟩
      · rcases statusStep_of_addsVotes hvotes hreview hsame hstep with
          ⟨final', hdone⟩ | ⟨_, _, heq, _⟩
        · exact .inl ⟨final', visitAll_cons_of_done hdone rest⟩
        · cases heq
      · rcases statusStep_of_addsVotes hvotes hreview hsame hstep with
          ⟨final', hdone⟩ | ⟨_, next', heq, hyield, hnext⟩
        · exact .inl ⟨final', visitAll_cons_of_done hdone rest⟩
        · cases heq
          rw [visitAll_cons_of_yield hyield]
          exact ih hnext hrest

/-!
# The status with more votes
-/

theorem exists_recalls_regularStatus {status : PathStatus}
    (hvotes : context.AddsVotes raised) (hreview : raised.VotersReview)
    (h : Recalls (engine.regularStatus context path) s status) :
    ∃ higher, Recalls (engine.regularStatus raised path) s higher := by
  rcases h with ⟨s', hrun, hback⟩
  rcases run_regularStatus hrun with ⟨revision, progress, hrevision, hclimb, _, _⟩
  rcases shows_of_run (engine.visitLevel_eq context path) hclimb with
    ⟨levels, complete, hshows, hall⟩
  have hclimb' : ∃ progress' t, (visitLevels engine.site
      { project := context.project, branch := context.branch, revision, path } {}
      (engine.visitLevel raised path)).run s = (.ok progress', t) ∧ t ≤ s' := by
    rcases visitAll_of_addsVotes hvotes hreview rfl hall with
      ⟨final, hdone⟩ | ⟨last, last', hcomplete, hyield⟩
    · rcases hshows.run_of_done (engine.visitLevel_eq raised path) hdone with ⟨t, hrun', hle⟩
      exact ⟨final, t, hrun', hle⟩
    · cases complete with
      | false => cases hcomplete
      | true =>
          exact ⟨last', s', hshows.run_of_yield (engine.visitLevel_eq raised path) hyield, le_rfl⟩
  rcases hclimb' with ⟨progress', t, hrun', hle⟩
  have hproject : raised.project = context.project := by rw [hvotes.rest]
  have hbranch : raised.branch = context.branch := by rw [hvotes.rest]
  have hrevision' : raised.revision = some revision := by rw [hvotes.rest, hrevision]
  rw [← hproject, ← hbranch] at hrun'
  unfold regularStatus
  rw [hrevision']
  exact ⟨_, t, run_bind_of_ok hrun', le_trans hle hback⟩

theorem exists_recalls_pathStatus {status : PathStatus} (hrises : context.RisesTo raised)
    (h : Recalls (engine.pathStatus context path) s status) :
    ∃ higher, Recalls (engine.pathStatus raised path) s higher := by
  unfold pathStatus at *
  cases hover : raised.hasOverride with
  | true =>
      rw [if_pos rfl]
      exact ⟨_, recalls_pure.mpr rfl⟩
  | false =>
      rw [if_neg Bool.false_ne_true]
      rcases hrises.votes with hover' | hvotes
      · rw [hover] at hover'
        cases hover'
      have hsame : context.hasOverride = false := by
        rw [← hover, hvotes.rest]
      have hboot : raised.bootstrapping = context.bootstrapping := by rw [hvotes.rest]
      rw [hsame, if_neg Bool.false_ne_true] at h
      rw [hboot]
      split at h
      · rename_i hbootstrapping
        rw [if_pos hbootstrapping]
        exact ⟨_, recalls_pure.mpr rfl⟩
      · rename_i hregular
        rw [if_neg hregular]
        exact exists_recalls_regularStatus hvotes hrises.second_reviews h

theorem isOwner_of_addsVotes (hvotes : context.AddsVotes raised) (path : String) (id : Int) :
    engine.isOwner raised path id = engine.isOwner context path id := by
  rw [hvotes.rest]
  rfl

end Engine

def PathStatus.RisesTo (first second : PathStatus) : Prop :=
  second.path = first.path ∧ first.status ≤ second.status

structure FileStatus.RisesTo (first second : FileStatus) : Prop where
  file : second.file = first.file
  new : List.Forall₂ PathStatus.RisesTo first.new.toList second.new.toList
  old : List.Forall₂ PathStatus.RisesTo first.old.toList second.old.toList

theorem all_approved_of_rises {first second : List PathStatus}
    (h : List.Forall₂ PathStatus.RisesTo first second)
    (hall : ∀ path ∈ first, path.status = .approved) :
    ∀ path ∈ second, path.status = .approved := by
  induction h with
  | nil =>
      intro path hpath
      cases hpath
  | cons hrises _ ih =>
      intro path hpath
      rcases List.mem_cons.mp hpath with rfl | hmem
      · apply OwnerStatus.eq_approved_of_le
        rw [← hall _ List.mem_cons_self]
        exact hrises.2
      · exact ih (fun other hother => hall other (List.mem_cons_of_mem _ hother)) path hmem

theorem FileStatus.RisesTo.isApproved {first second : FileStatus} (h : first.RisesTo second)
    (happroved : first.isApproved = true) : second.isApproved = true := by
  rw [FileStatus.isApproved_iff] at *
  exact all_approved_of_rises (List.rel_append h.new h.old) happroved

namespace Engine

variable {engine : Engine} {first second : Change} {context raised : StatusContext}
  {path : String} {s s' t t' : Session}

/-!
# Statuses with more votes
-/

theorem pathStatus_rises {status : PathStatus} (hrises : context.RisesTo raised)
    (h : Recalls (engine.pathStatus context path) s status) :
    ∃ higher, Recalls (engine.pathStatus raised path) s higher ∧ status.RisesTo higher := by
  rcases exists_recalls_pathStatus hrises h with ⟨higher, hhigher⟩
  have hpath : higher.path = status.path := by
    rcases h with ⟨_, hrun, _⟩
    rcases hhigher with ⟨_, hrun', _⟩
    rw [path_of_pathStatus hrun, path_of_pathStatus hrun']
  refine ⟨higher, hhigher, hpath, ?_⟩
  cases hover : raised.hasOverride with
  | true =>
      rw [approved_of_override hover hhigher]
      exact OwnerStatus.le_approved _
  | false =>
      rcases hrises.votes with hover' | hvotes
      · rw [hover] at hover'
        cases hover'
      have hsame : context.hasOverride = false := by
        rw [← hover, hvotes.rest]
      have hverdict := verdict_of_recalls hrises.first_reviews hsame h
      have hverdict' := verdict_of_recalls hrises.second_reviews hover hhigher
      refine hverdict.le hvotes (fun id => recalls_not_both) (hverdict'.mono ?_)
      intro id owns howns
      rw [isOwner_of_addsVotes hvotes] at howns
      exact howns

theorem fileStatus_rises {file : ChangedFile} {status : FileStatus}
    (hrises : context.RisesTo raised) (h : Recalls (engine.fileStatus context file) s status) :
    ∃ higher, Recalls (engine.fileStatus raised file) s higher ∧ status.RisesTo higher := by
  rcases fileStatus_pathwise (fun _ _ => pathStatus_rises hrises) h with
    ⟨higher, hhigher, hrise⟩
  exact ⟨higher, hhigher, hrise.file, hrise.new, hrise.old⟩

theorem files_rise {files : List ChangedFile} {statuses : List FileStatus}
    (hrises : context.RisesTo raised)
    (h : Recalls (files.mapM (engine.fileStatus context)) s statuses) :
    ∃ higher, Recalls (files.mapM (engine.fileStatus raised)) s higher ∧
      List.Forall₂ FileStatus.RisesTo statuses higher :=
  exists_recalls_mapM (engine.loads_fileStatus context) (engine.loads_fileStatus raised)
    (fun _ _ => fileStatus_rises hrises) h

theorem allApproved_rises {files : List ChangedFile} (hrises : context.RisesTo raised)
    (h : Recalls (engine.allApproved context files) s true) :
    Recalls (engine.allApproved raised files) s true := by
  have hfound := recalls_allApproved h
  clear h
  induction files with
  | nil => exact recalls_pure.mpr rfl
  | cons file rest ih =>
      rcases hfound file List.mem_cons_self with ⟨status, hstatus, happroved⟩
      rcases fileStatus_rises hrises hstatus with ⟨higher, hhigher, hrise⟩
      refine (recalls_bind (engine.loads_fileStatus raised file) ?_).mpr ⟨higher, hhigher, ?_⟩
      · intro status
        split
        · exact engine.loads_allApproved raised rest
        · exact .done false
      · rw [hrise.isApproved happroved, if_pos rfl]
        exact ih fun other hother => hfound other (List.mem_cons_of_mem file hother)

/-!
# Changes with more votes
-/

theorem evaluation?_none_of_addsVotes (hvotes : first.AddsVotes second)
    (h : engine.evaluation? first = .ok none) : engine.evaluation? second = .ok none := by
  rw [evaluation?_eq_none] at *
  rw [hvotes.rest]
  exact h

theorem evaluation?_rises {files : List ChangedFile} (hvotes : first.AddsVotes second)
    (h : engine.evaluation? first = .ok (some (context, files))) :
    ∃ raised, engine.evaluation? second = .ok (some (raised, files)) ∧
      context.RisesTo raised := by
  rcases evaluation?_eq_some.mp h with ⟨henabled, hcontext, hfiles⟩
  rcases context_rises hvotes hcontext with ⟨raised, hraised, hrises⟩
  refine ⟨raised, evaluation?_eq_some.mpr ⟨?_, hraised, ?_⟩, hrises⟩
  · rw [hvotes.rest]
    exact henabled
  · rw [hvotes.rest]
    exact hfiles

theorem recalls_fileStatuses_rises {revision : Option String} {statuses : List FileStatus}
    (hvotes : first.AddsVotes second)
    (h : Recalls (engine.fileStatuses first revision) s statuses) :
    ∃ higher, Recalls (engine.fileStatuses second revision) s higher ∧
      List.Forall₂ FileStatus.RisesTo statuses higher := by
  have hcheck : checkRevision second revision = checkRevision first revision := by
    rw [hvotes.rest]
    rfl
  rcases recalls_fileStatuses.mp h with
    ⟨hrevision, ⟨hevaluation, rfl⟩ | ⟨context, files, hevaluation, hfiles⟩⟩
  · refine ⟨[], recalls_fileStatuses.mpr ⟨hcheck.trans hrevision, .inl ⟨?_, rfl⟩⟩, .nil⟩
    exact evaluation?_none_of_addsVotes hvotes hevaluation
  · rcases evaluation?_rises hvotes hevaluation with ⟨raised, hevaluation', hrises⟩
    rcases files_rise hrises hfiles with ⟨higher, hhigher, hrise⟩
    exact ⟨higher, recalls_fileStatuses.mpr ⟨hcheck.trans hrevision,
      .inr ⟨raised, files, hevaluation', hhigher⟩⟩, hrise⟩

theorem recalls_isSubmittable_rises (hvotes : first.AddsVotes second)
    (h : Recalls (engine.isSubmittable first) s true) :
    Recalls (engine.isSubmittable second) s true := by
  rcases recalls_isSubmittable.mp h with ⟨hevaluation, _⟩ | ⟨context, files, hevaluation, hall⟩
  · exact recalls_isSubmittable.mpr
      (.inl ⟨evaluation?_none_of_addsVotes hvotes hevaluation, rfl⟩)
  · rcases evaluation?_rises hvotes hevaluation with ⟨raised, hevaluation', hrises⟩
    exact recalls_isSubmittable.mpr
      (.inr ⟨raised, files, hevaluation', allApproved_rises hrises hall⟩)

/-- With more votes no status is lower, and no evaluation fails that succeeded without them. -/
theorem statuses_rise_of_addsVotes (hvotes : first.AddsVotes second) :
    (∀ revision s s' t t' statuses outcome,
      (engine.fileStatuses first revision).run s = (.ok statuses, s') →
      (engine.fileStatuses second revision).run t = (outcome, t') →
      s.Comparable engine.site s' t t' →
      ∃ higher, outcome = .ok higher ∧ List.Forall₂ FileStatus.RisesTo statuses higher) ∧
    (∀ s s' t t' outcome,
      (engine.isSubmittable first).run s = (.ok true, s') →
      (engine.isSubmittable second).run t = (outcome, t') →
      s.Comparable engine.site s' t t' → outcome = .ok true) := by
  constructor
  · intro revision s s' t t' statuses outcome hrun hagain hcomparable
    have hloads := engine.loads_fileStatuses first revision
    rcases recalls_fileStatuses_rises hvotes (hloads.recalls hrun le_rfl) with
      ⟨higher, hrecalls, hrise⟩
    refine ⟨higher, ?_, hrise⟩
    exact hcomparable.outcome_eq hloads (engine.loads_fileStatuses second revision)
      (fun hnames => agrees_fileStatuses hnames first revision)
      (fun hnames => agrees_fileStatuses hnames second revision) hrun hrecalls hagain
  · intro s s' t t' outcome hrun hagain hcomparable
    have hloads := engine.loads_isSubmittable first
    have hrecalls := recalls_isSubmittable_rises hvotes (hloads.recalls hrun le_rfl)
    exact hcomparable.outcome_eq hloads (engine.loads_isSubmittable second)
      (fun hnames => agrees_isSubmittable hnames first)
      (fun hnames => agrees_isSubmittable hnames second) hrun hrecalls hagain

/-- Before Ann approves the change of the village, it waits for Eve. -/
theorem village_statuses_rise :
    ∃ statuses higher, statuses.map FileStatus.isApproved = [false, false] ∧
      higher.map FileStatus.isApproved = [true, true] ∧
      List.Forall₂ FileStatus.RisesTo statuses higher := by
  have hvotes : Change.AddsVotes { villageChange with approvals := [] } villageChange :=
    { rest := rfl, approvals := by simp, reviewers := by simp }
  have hbefore : ((village.fileStatuses { villageChange with approvals := [] } none).run
      {}).1.toOption = some [
        { file := { newPath := some "/doc/map", kind := .modified }
          new := some { path := "/doc/map", status := .pending
                        reason := some "a code owner is a reviewer (global code owners)" } },
        { file := { newPath := some "/well", kind := .added }
          new := some { path := "/well", status := .pending
                        reason := some "a code owner is a reviewer (global code owners)" } }] := by
    decide +kernel
  have hafter : ((village.fileStatuses villageChange none).run {}).1.toOption = some [
        { file := { newPath := some "/doc/map", kind := .modified }
          new := some { path := "/doc/map", status := .approved
                        reason := some "a code owner approved the change (/)" } },
        { file := { newPath := some "/well", kind := .added }
          new := some { path := "/well", status := .approved
                        reason := some "a code owner approved the change (/)" } }] := by
    decide +kernel
  have hfaithful : ({} : Session).Faithful village.site := Session.faithful_empty _
  rcases (statuses_rise_of_addsVotes hvotes).1 none _ _ _ _ _ _ (run_of_toOption hbefore)
    (run_of_toOption hafter) (.inr ⟨village_plainNames, hfaithful, hfaithful⟩) with
    ⟨higher, heq, hrise⟩
  cases heq
  exact ⟨_, _, rfl, rfl, hrise⟩

/-!
# A vote that does harm

Ann owns `/b/d`.  With her vote nobody looks at `/b` any more, and the box of the annex is first asked
for as the configuration of the root folder.
-/

def depotApproved : Change :=
  { depotChange with approvals := [{ accountId := 1, label := "Code-Review", value := 1 }] }

def depotFilesInOrder : List ChangedFile := [
  { newPath := some "/b/d/f", kind := .added }, { newPath := some "/c/f", kind := .added }]

def statusesOfPaths (files : List FileStatus) : List (List (String × OwnerStatus)) :=
  files.map fun file => file.pathStatuses.map fun found => (found.path, found.status)

theorem depot_statuses_fall :
    depotChange.AddsVotes depotApproved ∧
    boxedRegistry.toOption = some (depot depotFilesInOrder).site.registry ∧
    ((((depot depotFilesInOrder).fileStatuses depotChange none).run {}).1.toOption.map
      statusesOfPaths = some [[("/b/d/f", .approved)], [("/c/f", .approved)]]) ∧
    (((depot depotFilesInOrder).isSubmittable depotChange).run {}).1.toOption = some true ∧
    ((((depot depotFilesInOrder).fileStatuses depotApproved none).run {}).1.toOption.map
      statusesOfPaths = some [[("/b/d/f", .approved)], [("/c/f", .insufficientReviewers)]]) ∧
    (((depot depotFilesInOrder).isSubmittable depotApproved).run {}).1.toOption = some false := by
  refine ⟨{ rest := rfl, approvals := by simp [depotChange], reviewers := by simp [depotChange] },
    ?_, ?_, ?_, ?_, ?_⟩
  all_goals decide +kernel

end Engine
end Ownership
