import Ownership.Proofs.Approval.MoreVotes
import Ownership.Proofs.Lockstep

/-!
# Voters as reviewers

An account whose vote meets the required approval is a reviewer by its vote, and it changes nothing
to name it among the reviewers as well.  Other voters are no reviewers.  If they are made reviewers,
the evaluation still takes the same course, because only approvals end a walk, but the paths that
they own no longer lack reviewers.
-/

namespace Ownership

open Walk Hierarchy

/-!
# Added reviewers
-/

/-- The same change after everybody who has voted on it was made a reviewer. -/
def Change.withVoters (change : Change) : Change :=
  { change with reviewers := change.reviewers ++ change.approvals.map Approval.accountId }

def StatusContext.withReviewers (context : StatusContext) (reviewers : List Int) : StatusContext :=
  { context with reviewers }

def StatusContext.reviewedBy (reviewers : List Int) (context : StatusContext) : StatusContext :=
  context.withReviewers (reviewers ++ context.approvers).eraseDups

/-- The status is the same, or it was not approved and now waits for an owner. -/
inductive PathStatus.Joined (owned : Prop) : PathStatus → PathStatus → Prop
  | same (status : PathStatus) : Joined owned status status
  | raised (status : PathStatus) (reason : Option String) (howned : owned)
      (hopen : status.status ≠ .approved) :
      Joined owned status { status with status := .pending, reason }

/-- What reviewers who come in make of the status of a path: it changes only if one of them owns the
path, and then it no longer lacks reviewers. -/
structure PathStatus.AfterJoining (owned : Prop) (first second : PathStatus) : Prop where
  joined : first.Joined owned second
  reviewed : owned → second.status ≠ .insufficientReviewers

theorem PathStatus.Joined.mono {owned owned' : Prop} {first second : PathStatus}
    (h : first.Joined owned second) (himp : owned → owned') : first.Joined owned' second := by
  cases h with
  | same => exact .same _
  | raised reason howned hopen => exact .raised _ reason (himp howned) hopen

namespace Engine

variable {engine : Engine} {change : Change} {context : StatusContext} {more : List Int}
  {path place : String} {owners : PathOwners} {level : Level} {s s' : Session}

def JoinsAt (context : StatusContext) (more : List Int) (owners : PathOwners) : Prop :=
  ∃ id ∈ more, id ∉ context.reviewers ∧ owners.has id = true

/-- After a walk that has not been decided the status is the same with more reviewers, or it waits
for one who joined. -/
inductive Progress.Joined (joined : Prop) : Progress → Progress → Prop
  | same (progress : Progress) : Progress.Joined joined progress progress
  | raised (progress : Progress) (reason : String) (hjoined : joined) :
      Progress.Joined joined progress { progress with status := .pending, reason }

theorem Progress.Joined.mono {joined joined' : Prop} {progress progress' : Progress}
    (h : Progress.Joined joined progress progress') (himp : joined → joined') :
    Progress.Joined joined' progress progress' := by
  cases h with
  | same => exact .same _
  | raised reason hjoined => exact .raised _ reason (himp hjoined)

theorem Progress.Joined.ignoresGlobal {joined : Prop} {progress progress' : Progress}
    (h : Progress.Joined joined progress progress') :
    progress'.ignoresGlobal = progress.ignoresGlobal := by
  cases h <;> rfl

theorem Progress.Joined.ignoring {joined : Prop} {progress progress' : Progress}
    (h : Progress.Joined joined progress progress') (ignoresGlobal : Bool) :
    Progress.Joined joined { progress with ignoresGlobal }
      { progress' with ignoresGlobal } := by
  cases h with
  | same => exact .same _
  | raised reason hjoined => exact .raised _ reason hjoined

/-!
# A level with more reviewers
-/

theorem foldLevel_eq_of_voter {id : Int} (status status' : OwnerStatus)
    (hreview : context.VotersReview) (hmore : context.reviewers ⊆ more)
    (hvoter : context.IsVoter id) (hhas : owners.has id = true) :
    foldLevel status' owners (context.withReviewers more) = foldLevel status owners context ∧
      (foldLevel status owners context).reason.isSome = true := by
  unfold foldLevel
  change (if owners.has context.uploader = true then _ else _) = _ ∧ _
  by_cases huploader : owners.has context.uploader = true
  · rw [if_pos huploader, if_pos huploader]
    exact ⟨rfl, rfl⟩
  · have happrover : id ∈ context.approvers := by
      rcases hvoter with rfl | happrover
      · exact absurd hhas huploader
      · exact happrover
    have happrovers : owners.hasAny context.approvers = true :=
      PathOwners.hasAny_iff.mpr ⟨id, happrover, hhas⟩
    have hreviewers : owners.hasAny context.reviewers = true :=
      PathOwners.hasAny_iff.mpr ⟨id, hreview id happrover, hhas⟩
    have hjoined : owners.hasAny more = true :=
      PathOwners.hasAny_iff.mpr ⟨id, hmore (hreview id happrover), hhas⟩
    simp [StatusContext.withReviewers, huploader, happrovers, hreviewers, hjoined]

theorem foldLevel_eq_of_no_voter (status : OwnerStatus)
    (hnone : ∀ id, context.IsVoter id → owners.has id = false) :
    foldLevel status owners context =
      if owners.hasAny context.reviewers = true then
        { status := status.max .pending, keepsWalking := true
          reason := some "a code owner is a reviewer" }
      else { status, keepsWalking := true } := by
  have happrovers : owners.hasAny context.approvers = false := by
    apply Bool.eq_false_iff.mpr
    intro hany
    rcases PathOwners.hasAny_iff.mp hany with ⟨id, hid, hhas⟩
    rw [hnone id (.inr hid)] at hhas
    cases hhas
  unfold foldLevel
  rw [hnone context.uploader (.inl rfl), happrovers]
  cases owners.hasAny context.reviewers <;> rfl

theorem take_eq_of_reason {progress progress' : Progress} {step : FoldStep}
    (hreason : step.reason.isSome = true)
    (hignores : progress'.ignoresGlobal = progress.ignoresGlobal) :
    progress'.take step place = progress.take step place := by
  rcases step with ⟨status, keeps, _ | reason⟩
  · cases hreason
  · unfold Progress.take
    rw [hignores]

def stepped (context : StatusContext) (progress : Progress) (owners : PathOwners)
    (place : String) : Progress :=
  progress.take (foldLevel progress.status owners context) place

theorem stepped_of_voter {id : Int} {progress progress' : Progress}
    (hreview : context.VotersReview) (hmore : context.reviewers ⊆ more)
    (hvoter : context.IsVoter id) (hhas : owners.has id = true)
    (hignores : progress'.ignoresGlobal = progress.ignoresGlobal) :
    stepped (context.withReviewers more) progress' owners place =
      stepped context progress owners place := by
  rcases foldLevel_eq_of_voter progress.status progress'.status hreview hmore hvoter hhas with
    ⟨hfold, hreason⟩
  unfold stepped
  rw [hfold]
  exact take_eq_of_reason hreason hignores

theorem Progress.Joined.stepped {joined : Prop} {progress progress' : Progress}
    (h : Progress.Joined joined progress progress') (place : String)
    (hmore : context.reviewers ⊆ more) (hopen : progress.status ≠ .approved)
    (hnone : ∀ id, context.IsVoter id → owners.has id = false) :
    Progress.Joined (joined ∨ JoinsAt context more owners)
      (Engine.stepped context progress owners place)
      (Engine.stepped (context.withReviewers more) progress' owners place) := by
  have hnone' : ∀ id, (context.withReviewers more).IsVoter id → owners.has id = false := hnone
  unfold Engine.stepped
  rw [foldLevel_eq_of_no_voter progress.status hnone,
    foldLevel_eq_of_no_voter progress'.status hnone']
  change Progress.Joined _ _ (progress'.take (if owners.hasAny more = true then _ else _) place)
  cases hany : owners.hasAny context.reviewers with
  | true =>
      rcases PathOwners.hasAny_iff.mp hany with ⟨id, hid, hhas⟩
      have hjoined : owners.hasAny more = true := PathOwners.hasAny_iff.mpr ⟨id, hmore hid, hhas⟩
      rw [hjoined, if_pos rfl, if_pos rfl, OwnerStatus.max_pending hopen]
      cases h with
      | same =>
          rw [OwnerStatus.max_pending hopen]
          exact .same _
      | raised reason hjoined => exact .same _
  | false =>
      rw [if_neg Bool.false_ne_true]
      cases hmany : owners.hasAny more with
      | false =>
          rw [if_neg Bool.false_ne_true]
          cases h with
          | same => exact .same _
          | raised reason hjoined => exact .raised _ reason (.inl hjoined)
      | true =>
          rcases PathOwners.hasAny_iff.mp hmany with ⟨id, hid, hhas⟩
          have hnew : id ∉ context.reviewers := by
            intro hthere
            rw [PathOwners.hasAny_iff.mpr ⟨id, hthere, hhas⟩] at hany
            cases hany
          have hjoins : joined ∨ JoinsAt context more owners := .inr ⟨id, hid, hnew, hhas⟩
          rw [if_pos rfl]
          cases h with
          | same =>
              rw [OwnerStatus.max_pending hopen]
              exact .raised _ _ hjoins
          | raised reason hjoined => exact .raised _ _ hjoins

theorem stepped_of_no_voter (progress : Progress) (hopen : progress.status ≠ .approved)
    (hnone : ∀ id, context.IsVoter id → owners.has id = false) :
    (stepped context progress owners place).status ≠ .approved ∧
      (stepped context progress owners place).decided = false := by
  unfold stepped
  rw [foldLevel_eq_of_no_voter progress.status hnone]
  split
  · rw [OwnerStatus.max_pending hopen]
    exact ⟨by simp [Progress.take], rfl⟩
  · exact ⟨hopen, rfl⟩

/-!
# A climb with more reviewers
-/

/-- A walk with more reviewers is decided where the walk is, in the same way, and has otherwise come
to the same progress or waits for an owner at one of its levels who joined. -/
theorem visitAll_joined {levels : List Level} {progress progress' : Progress} {joined : Prop}
    {step : ForInStep Progress} (hreview : context.VotersReview)
    (hmore : context.reviewers ⊆ more) (hopen : progress.status ≠ .approved)
    (hjoined : Progress.Joined joined progress progress')
    (h : visitAll (engine.statusStep context path) progress levels = .ok step) :
    (∃ final, step = .done final ∧ visitAll (engine.statusStep (context.withReviewers more) path)
        progress' levels = .ok (.done final)) ∨
      ∃ last last' seen, step = .yield last ∧
        visitAll (engine.statusStep (context.withReviewers more) path) progress' levels =
          .ok (.yield last') ∧
        Surveys engine path progress.ignoresGlobal levels seen last.ignoresGlobal ∧
        Progress.Joined (joined ∨ ∃ owners ∈ seen, JoinsAt context more owners) last last' ∧
        last.status ≠ .approved := by
  induction levels generalizing progress progress' joined with
  | nil =>
      cases h
      exact .inr ⟨progress, progress', [], rfl, rfl, .nil, hjoined.mono .inl, hopen⟩
  | cons level rest ih =>
      rcases visitAll_cons_eq_ok h with ⟨final, hstep, rfl⟩ | ⟨next, hstep, hrest⟩
      · rcases statusStep_eq_done hstep with ⟨owners, ignores, id, hsees, hvoter, hhas, rfl⟩
        have hweigh : weigh (context.withReviewers more) progress' level owners ignores =
            weigh context progress level owners ignores :=
          stepped_of_voter hreview hmore hvoter hhas rfl
        rw [← hjoined.ignoresGlobal] at hsees
        have hraised := statusStep_of_sees (context.withReviewers more) hsees
        rw [hweigh, (weigh_of_voter progress level ignores hreview hvoter hhas).1,
          if_pos rfl] at hraised
        exact .inl ⟨_, rfl, visitAll_cons_of_done hraised rest⟩
      · rcases statusStep_eq_yield hreview hstep with ⟨owners, ignores, hsees, hnone, rfl⟩
        have hnext : Progress.Joined (joined ∨ JoinsAt context more owners)
            (weigh context progress level owners ignores)
            (weigh (context.withReviewers more) progress' level owners ignores) :=
          (hjoined.ignoring ignores).stepped _ hmore hopen hnone
        have hopen' : (weigh context progress level owners ignores).status ≠ .approved :=
          (stepped_of_no_voter { progress with ignoresGlobal := ignores } hopen hnone).1
        have hraised := statusStep_of_sees (context.withReviewers more)
          (hjoined.ignoresGlobal ▸ hsees)
        have hnone' : ∀ id, (context.withReviewers more).IsVoter id → owners.has id = false := hnone
        rw [(weigh_of_no_voter progress' level ignores hnone').1,
          if_neg Bool.false_ne_true] at hraised
        rw [visitAll_cons_of_yield hraised]
        rcases ih hopen' hnext hrest with
          hdone | ⟨last, last', seen, heq, hlast, hseen, hjoins, hstill⟩
        · exact .inl hdone
        · refine .inr ⟨last, last', owners :: seen, heq, hlast, .cons hsees hseen, ?_, hstill⟩
          apply hjoins.mono
          intro hcases
          rcases hcases with (hbefore | hhere) | ⟨others, hothers, hthere⟩
          · exact .inl hbefore
          · exact .inr ⟨owners, List.mem_cons_self, hhere⟩
          · exact .inr ⟨others, List.mem_cons_of_mem owners hothers, hthere⟩

/-!
# A path with more reviewers
-/

def OwnerJoins (engine : Engine) (context : StatusContext) (more : List Int) (path : String)
    (s : Session) : Prop :=
  ∃ id ∈ more, id ∉ context.reviewers ∧ engine.Owns context path s id

def closing (engine : Engine) (context : StatusContext) (progress : Progress) : Progress :=
  if (progress.decided || progress.ignoresGlobal || context.globalOwners.isEmpty) = true then
    progress
  else
    stepped context progress (engine.resolver.resolve context.globalOwners) "global code owners"

def Progress.close (path : String) (progress : Progress) : PathStatus :=
  { path, status := progress.status, reason := some progress.reason }

theorem regularStatus_of_revision {revision : String} (hrevision : context.revision = some revision)
    (path : String) : engine.regularStatus context path =
      (visitLevels engine.site
        { project := context.project, branch := context.branch, revision, path } {}
        (engine.visitLevel context path) >>= fun progress =>
          pure ((engine.closing context progress).close path)) := by
  unfold regularStatus
  rw [hrevision]
  rfl

theorem Progress.Joined.close {joined : Prop} {progress progress' : Progress}
    (h : Progress.Joined joined progress progress') (hopen : progress.status ≠ .approved)
    (path : String) : (progress.close path).Joined joined (progress'.close path) := by
  cases h with
  | same => exact .same _
  | raised reason hjoined => exact .raised _ (some reason) hjoined hopen

theorem closing_joined {joined : Prop} {progress progress' : Progress}
    (h : Progress.Joined joined progress progress') (hreview : context.VotersReview)
    (hmore : context.reviewers ⊆ more) (hopen : progress.status ≠ .approved)
    (hundecided : progress.decided = false) (path : String) :
    ((engine.closing context progress).close path).Joined
      (joined ∨ ∃ owners ∈ engine.globals context progress.ignoresGlobal,
        JoinsAt context more owners)
      ((engine.closing (context.withReviewers more) progress').close path) := by
  have hundecided' : progress'.decided = false := by
    cases h <;> exact hundecided
  have hglobal : (context.withReviewers more).globalOwners = context.globalOwners := rfl
  unfold closing globals
  rw [hundecided, hundecided', h.ignoresGlobal, hglobal, Bool.false_or]
  cases hshut : progress.ignoresGlobal || context.globalOwners.isEmpty with
  | true =>
      rw [if_pos rfl, if_pos rfl]
      exact (h.close hopen path).mono .inl
  | false =>
      rw [if_neg Bool.false_ne_true, if_neg Bool.false_ne_true, if_neg Bool.false_ne_true]
      rcases exists_voter_or_none (engine.resolver.resolve context.globalOwners) context with
        ⟨id, hvoter, hhas⟩ | hnone
      · rw [stepped_of_voter hreview hmore hvoter hhas h.ignoresGlobal]
        exact .same _
      · have hjoined := (h.stepped "global code owners" hmore hopen hnone).close
          (stepped_of_no_voter progress hopen hnone).1 path
        exact hjoined.mono
          (Or.imp_right fun hjoins => ⟨_, List.mem_singleton_self _, hjoins⟩)

theorem closing_of_decided {progress : Progress} (h : progress.decided = true) :
    engine.closing context progress = progress := by
  unfold closing
  rw [h]
  rfl

theorem regularStatus_joined {status : PathStatus} (hreview : context.VotersReview)
    (hmore : context.reviewers ⊆ more) (hboot : context.bootstrapping = false)
    (h : Recalls (engine.regularStatus context path) s status) :
    ∃ found, Recalls (engine.regularStatus (context.withReviewers more) path) s found ∧
      status.Joined (engine.OwnerJoins context more path s) found := by
  rcases h with ⟨s', hrun, hback⟩
  rcases run_regularStatus hrun with ⟨revision, progress, hrevision, hclimb, _, _⟩
  rw [regularStatus_of_revision hrevision, run_bind_of_ok hclimb] at hrun
  cases hrun
  have hrevision' : (context.withReviewers more).revision = some revision := hrevision
  rw [regularStatus_of_revision hrevision']
  rcases shows_of_run (engine.visitLevel_eq context path) hclimb with
    ⟨levels, complete, hshows, hall⟩
  have hstart : Progress.Joined False {} {} := .same {}
  rcases visitAll_joined hreview hmore (by decide) hstart hall with
    ⟨final, heq, hdone⟩ | ⟨last, last', seen, heq, hyield, hseen, hjoined, hopen⟩
  · cases complete with
    | true => cases heq
    | false =>
        cases heq
        have hdecided := (found_of_status {} hreview rfl hall).1
        have hvisits := engine.visitLevel_eq (context.withReviewers more) path
        rcases hshows.run_of_done hvisits hdone with ⟨t, hrun, hle⟩
        refine ⟨_, ⟨t, run_bind_of_ok hrun, le_trans hle hback⟩, ?_⟩
        rw [closing_of_decided hdecided, closing_of_decided hdecided]
        exact .same _
  · cases complete with
    | false => cases heq
    | true =>
        cases heq
        rcases surveys_of_status hreview (by decide) hall with ⟨_, _, _, _, hundecided⟩
        have hrun := hshows.run_of_yield (engine.visitLevel_eq (context.withReviewers more) path)
          hyield
        refine ⟨_, ⟨s', run_bind_of_ok hrun, hback⟩, ?_⟩
        apply (closing_joined hjoined hreview hmore hopen (hundecided rfl) path).mono
        intro hcases
        have hjoins : ∃ owners ∈ seen ++ engine.globals context progress.ignoresGlobal,
            JoinsAt context more owners := by
          rcases hcases with (hnever | ⟨owners, howners, hjoins⟩) | ⟨owners, howners, hjoins⟩
          · exact hnever.elim
          · exact ⟨owners, List.mem_append_left _ howners, hjoins⟩
          · exact ⟨owners, List.mem_append_right _ howners, hjoins⟩
        rcases hjoins with ⟨owners, howners, id, hid, hnew, hhas⟩
        have hanswers : engine.Answers context path s _ id _ :=
          run_isOwner_of_surveys hboot hrevision hshows hseen
        rw [List.any_eq_true.mpr ⟨owners, howners, hhas⟩] at hanswers
        rcases hanswers with ⟨t, hasked, _⟩
        exact ⟨id, hid, hnew, t, hasked⟩

theorem bootstrapStatus_joined (hmore : context.reviewers ⊆ more)
    (hboot : context.bootstrapping = true) (path : String) (s : Session) :
    (engine.bootstrapStatus context path).Joined (engine.OwnerJoins context more path s)
      (engine.bootstrapStatus (context.withReviewers more) path) := by
  unfold bootstrapStatus
  change PathStatus.Joined _ _ (if engine.isProjectOwner context context.uploader = true then _
    else if context.approvers.any (engine.isProjectOwner context) = true then _
    else if more.any (engine.isProjectOwner context) = true then _ else _)
  dsimp only
  split
  · exact .same _
  · split
    · exact .same _
    · split
      · rename_i hany
        rcases List.any_eq_true.mp hany with ⟨id, hid, howner⟩
        rw [if_pos (List.any_eq_true.mpr ⟨id, hmore hid, howner⟩)]
        exact .same _
      · rename_i hnone
        split
        · rename_i hany
          rcases List.any_eq_true.mp hany with ⟨id, hid, howner⟩
          refine .raised _ _ ⟨id, hid, ?_, s, ?_⟩ (by simp)
          · exact fun hthere => hnone (List.any_eq_true.mpr ⟨id, hthere, howner⟩)
          · unfold isOwner
            rw [hboot, howner]
            rfl
        · exact .same _

theorem pathStatus_joined {status : PathStatus} (hreview : context.VotersReview)
    (hmore : context.reviewers ⊆ more) (h : Recalls (engine.pathStatus context path) s status) :
    ∃ found, Recalls (engine.pathStatus (context.withReviewers more) path) s found ∧
      status.Joined (engine.OwnerJoins context more path s) found := by
  unfold pathStatus at *
  change ∃ found, Recalls (if context.hasOverride = true then _
    else if context.bootstrapping = true then _ else _) s found ∧ _
  split at h
  · rename_i hover
    rcases recalls_pure.mp h with rfl
    rw [if_pos hover]
    exact ⟨_, recalls_pure.mpr rfl, .same _⟩
  · rename_i hover
    rw [if_neg hover]
    split at h
    · rename_i hboot
      rcases recalls_pure.mp h with rfl
      rw [if_pos hboot]
      exact ⟨_, recalls_pure.mpr rfl, bootstrapStatus_joined hmore hboot path s⟩
    · rename_i hregular
      rw [if_neg hregular]
      exact regularStatus_joined hreview hmore (Bool.eq_false_iff.mpr hregular) h

theorem status_of_reviewing_owner {status : PathStatus} {id : Int} (hreview : context.VotersReview)
    (hid : id ∈ context.reviewers) (howns : engine.Owns context path s id)
    (h : Recalls (engine.pathStatus context path) s status) :
    status.status ≠ .insufficientReviewers := by
  cases hover : context.hasOverride with
  | true =>
      rw [approved_of_override hover h]
      decide
  | false =>
      intro heq
      have hverdict := verdict_of_recalls hreview hover h
      rw [heq] at hverdict
      cases hverdict with
      | insufficientReviewers _ hnone =>
          rcases howns with ⟨t, htrue⟩
          rcases hnone id hid with ⟨t', hfalse, _⟩
          rw [htrue] at hfalse
          cases hfalse

theorem pathStatus_afterJoining {status : PathStatus} (hreview : context.VotersReview)
    (hmore : context.reviewers ⊆ more) (h : Recalls (engine.pathStatus context path) s status) :
    ∃ found, Recalls (engine.pathStatus (context.withReviewers more) path) s found ∧
      status.AfterJoining (engine.OwnerJoins context more path s) found := by
  rcases pathStatus_joined hreview hmore h with ⟨found, hfound, hjoined⟩
  refine ⟨found, hfound, hjoined, fun howner => ?_⟩
  rcases howner with ⟨id, hid, _, howns⟩
  have hvoters : (context.withReviewers more).VotersReview :=
    fun id hid => hmore (hreview id hid)
  exact status_of_reviewing_owner hvoters hid howns hfound

/-!
# Walks with more reviewers

A walk with more reviewers loads what the walk loads and fails where the walk fails.
-/

def SameCourse {α β : Type} (x : Walk α) (y : Walk β) : Prop := Lockstep (fun _ _ => True) x y

theorem statusStep_alike {progress progress' : Progress} (hreview : context.VotersReview)
    (hmore : context.reviewers ⊆ more)
    (hsame : progress'.ignoresGlobal = progress.ignoresGlobal) :
    Alike (SameStep fun progress progress' => progress'.ignoresGlobal = progress.ignoresGlobal)
      (engine.statusStep context path progress level)
      (engine.statusStep (context.withReviewers more) path progress' level) := by
  cases howners : engine.resolver.pathOwners level.config path with
  | error failure =>
      unfold statusStep
      rw [howners]
      exact .failed _
  | ok owners =>
      cases hignores : shutsOut path progress.ignoresGlobal level with
      | error failure =>
          unfold statusStep
          rw [howners, hsame, hignores]
          exact .failed _
      | ok ignores =>
          rw [statusStep_of_sees context ⟨howners, hignores⟩,
            statusStep_of_sees (context.withReviewers more) ⟨howners, hsame ▸ hignores⟩]
          apply Alike.done
          rcases exists_voter_or_none owners context with ⟨id, hvoter, hhas⟩ | hnone
          · have hvoters : (context.withReviewers more).VotersReview :=
              fun id hid => hmore (hreview id hid)
            rw [(weigh_of_voter progress level ignores hreview hvoter hhas).1,
              (weigh_of_voter progress' level ignores hvoters hvoter hhas).1]
            exact .done rfl
          · have hnone' : ∀ id, (context.withReviewers more).IsVoter id →
                owners.has id = false := hnone
            rw [(weigh_of_no_voter progress level ignores hnone).1,
              (weigh_of_no_voter progress' level ignores hnone').1]
            exact .yield rfl

theorem sameCourse_pathStatus (hreview : context.VotersReview) (hmore : context.reviewers ⊆ more)
    (path : String) : SameCourse (engine.pathStatus context path)
      (engine.pathStatus (context.withReviewers more) path) := by
  unfold pathStatus
  change SameCourse _ (if context.hasOverride = true then _
    else if context.bootstrapping = true then _ else _)
  split
  · exact lockstep_pure trivial
  · split
    · exact lockstep_pure trivial
    · cases hrevision : context.revision with
      | none =>
          unfold regularStatus
          rw [show (context.withReviewers more).revision = none from hrevision, hrevision]
          exact lockstep_liftExcept (.failed _)
      | some revision =>
          have hrevision' : (context.withReviewers more).revision = some revision := hrevision
          rw [regularStatus_of_revision hrevision, regularStatus_of_revision hrevision']
          have hlevel : ∀ (progress progress' : Progress) (level : Level),
              progress'.ignoresGlobal = progress.ignoresGlobal →
              Lockstep (SameStep fun progress progress' : Progress =>
                  progress'.ignoresGlobal = progress.ignoresGlobal)
                (engine.visitLevel context path progress level)
                (engine.visitLevel (context.withReviewers more) path progress' level) := by
            intro progress progress' level hsame
            rw [visitLevel_eq, visitLevel_eq]
            exact lockstep_liftExcept (statusStep_alike hreview hmore hsame)
          exact (lockstep_visitLevels hlevel _ rfl).bind fun _ _ _ => lockstep_pure trivial

theorem sameCourse_statusOf (hreview : context.VotersReview) (hmore : context.reviewers ⊆ more)
    (path : Option String) : SameCourse (engine.statusOf context path)
      (engine.statusOf (context.withReviewers more) path) := by
  cases path with
  | none => exact lockstep_pure trivial
  | some path =>
      change Lockstep _ (some <$> _) (some <$> _)
      rw [← bind_pure_comp, ← bind_pure_comp]
      exact (sameCourse_pathStatus hreview hmore path).bind fun _ _ _ => lockstep_pure trivial

theorem sameCourse_fileStatus (hreview : context.VotersReview) (hmore : context.reviewers ⊆ more)
    (file : ChangedFile) : SameCourse (engine.fileStatus context file)
      (engine.fileStatus (context.withReviewers more) file) := by
  rw [fileStatus_eq, fileStatus_eq]
  apply (sameCourse_statusOf hreview hmore _).bind
  intro _ _ _
  apply (sameCourse_statusOf hreview hmore _).bind
  exact fun _ _ _ => lockstep_pure trivial

/-!
# The context with more reviewers
-/

theorem context_withReviewers (engine : Engine) (change : Change) (reviewers : List Int) :
    engine.context { change with reviewers } =
      (engine.context change).map (StatusContext.reviewedBy reviewers) := by
  rw [context_eq, context_eq]
  change (_ >>= fun required => _ >>= fun override =>
    engine.stateOf change (overrides override change.approvals) >>= _) = _
  cases (engine.config change.project).required.mapError (Failure.projectConfig change.project) with
  | error failure => rfl
  | ok required =>
      cases (engine.config change.project).override?.mapError
        (Failure.projectConfig change.project) with
      | error failure => rfl
      | ok override =>
          change (engine.stateOf change (overrides override change.approvals) >>= _) =
            (engine.stateOf change (overrides override change.approvals) >>= _).map _
          cases engine.stateOf change (overrides override change.approvals) <;> rfl

theorem evaluation?_withReviewers (engine : Engine) (change : Change) (reviewers : List Int) :
    engine.evaluation? { change with reviewers } =
      (engine.evaluation? change).map
        (Option.map (Prod.map (StatusContext.reviewedBy reviewers) id)) := by
  rw [evaluation?_eq, evaluation?_eq, context_withReviewers]
  change (if (engine.config change.project).isDisabled change.branch = true then _ else _) = _
  split
  · rfl
  · cases engine.context change with
    | error failure => rfl
    | ok context =>
        change (engine.changedFiles change.project change.currentRevision change.baseRevision >>= _)
          = (engine.changedFiles change.project change.currentRevision change.baseRevision >>=
            _).map _
        cases engine.changedFiles change.project change.currentRevision change.baseRevision <;> rfl

/-!
# Voters who are no reviewers
-/

/-- Somebody owns the path who has voted on the change without approving it, and who is no
reviewer. -/
def OverlooksOwner (engine : Engine) (change : Change) (path : String) (s : Session) : Prop :=
  ∃ context, engine.context change = .ok context ∧ ∃ approval ∈ change.approvals,
    approval.accountId ∉ change.reviewers ∧ ¬ engine.Approves change approval.accountId ∧
    engine.Owns context path s approval.accountId

def withVoters (change : Change) (context : StatusContext) : List Int :=
  (change.withVoters.reviewers ++ context.approvers).eraseDups

theorem mem_withVoters {id : Int} (hcontext : engine.context change = .ok context) :
    id ∈ withVoters change context ↔
      id ∈ context.reviewers ∨ ∃ approval ∈ change.approvals, approval.accountId = id := by
  unfold withVoters Change.withVoters
  rw [List.mem_eraseDups, context_reviewer_iff hcontext]
  simp only [List.mem_append, List.mem_map]
  exact or_right_comm

theorem mem_approvers_iff {id : Int} (hcontext : engine.context change = .ok context) :
    id ∈ context.approvers ↔ engine.Approves change id := by
  rcases context_eq_ok.mp hcontext with ⟨required, override, state, hrequired, _, _, rfl⟩
  unfold Approves
  rw [hrequired]
  simp [contextOf, mem_approversOf]

theorem ownerJoins_iff (hcontext : engine.context change = .ok context) :
    engine.OwnerJoins context (withVoters change context) path s ↔
      engine.OverlooksOwner change path s := by
  have hnew : ∀ id, id ∉ context.reviewers ↔
      id ∉ change.reviewers ∧ ¬ engine.Approves change id := by
    intro id
    rw [context_reviewer_iff hcontext, mem_approvers_iff hcontext, not_or]
  constructor
  · intro h
    rcases h with ⟨id, hid, hthere, howns⟩
    rcases (mem_withVoters hcontext).mp hid with hreviewer | ⟨approval, happroval, rfl⟩
    · exact absurd hreviewer hthere
    · rcases (hnew _).mp hthere with ⟨hreviewer, happroves⟩
      exact ⟨context, hcontext, approval, happroval, hreviewer, happroves, howns⟩
  · intro h
    rcases h with ⟨other, hother, approval, happroval, hreviewer, happroves, howns⟩
    rw [hcontext] at hother
    cases hother
    exact ⟨approval.accountId, (mem_withVoters hcontext).mpr (.inr ⟨approval, happroval, rfl⟩),
      (hnew _).mpr ⟨hreviewer, happroves⟩, howns⟩

theorem pathStatus_withVoters {status : PathStatus} (hcontext : engine.context change = .ok context)
    (h : Recalls (engine.pathStatus context path) s status) :
    ∃ found, Recalls (engine.pathStatus (context.reviewedBy change.withVoters.reviewers) path) s
        found ∧
      status.AfterJoining (engine.OverlooksOwner change status.path s) found := by
  have hpath : status.path = path := by
    rcases h with ⟨_, hrun, _⟩
    exact path_of_pathStatus hrun
  have hmore : context.reviewers ⊆ withVoters change context := fun id hid =>
    (mem_withVoters hcontext).mpr (.inl hid)
  rcases pathStatus_afterJoining (context_votersReview hcontext) hmore h with
    ⟨found, hfound, hjoined⟩
  refine ⟨found, hfound, ?_⟩
  rw [hpath, ← propext (ownerJoins_iff hcontext)]
  exact hjoined

theorem recalls_fileStatuses_withVoters {revision : Option String} {statuses : List FileStatus}
    (h : Recalls (engine.fileStatuses change revision) s statuses) :
    ∃ found, Recalls (engine.fileStatuses change.withVoters revision) s found ∧
      List.Forall₂ (FileStatus.Pathwise fun status found =>
        status.AfterJoining (engine.OverlooksOwner change status.path s) found) statuses found := by
  rcases recalls_fileStatuses.mp h with
    ⟨hrevision, ⟨hevaluation, rfl⟩ | ⟨context, files, hevaluation, hfiles⟩⟩
  · refine ⟨[], recalls_fileStatuses.mpr ⟨hrevision, .inl ⟨?_, rfl⟩⟩, .nil⟩
    exact (evaluation?_withReviewers engine change _).trans (by rw [hevaluation]; rfl)
  · rcases evaluation?_eq_some.mp hevaluation with ⟨_, hcontext, _⟩
    rcases files_pathwise (fun _ _ => pathStatus_withVoters hcontext) hfiles with
      ⟨found, hfound, hjoined⟩
    refine ⟨found, recalls_fileStatuses.mpr ⟨hrevision, .inr ⟨_, files, ?_, hfound⟩⟩, hjoined⟩
    exact (evaluation?_withReviewers engine change _).trans (by rw [hevaluation]; rfl)

theorem sameCourse_withVoters (engine : Engine) (change : Change) (revision : Option String) :
    SameCourse (engine.fileStatuses change revision)
      (engine.fileStatuses change.withVoters revision) := by
  rw [fileStatuses_eq, fileStatuses_eq]
  have hcheck : checkRevision change.withVoters revision = checkRevision change revision := rfl
  have hevaluation : engine.evaluation? change.withVoters = _ :=
    evaluation?_withReviewers engine change change.withVoters.reviewers
  rw [hcheck, hevaluation]
  apply Lockstep.after
  intro _
  cases hfound : engine.evaluation? change with
  | error failure => exact fun _ => ⟨rfl, .failed failure⟩
  | ok evaluation =>
      cases evaluation with
      | none => exact lockstep_pure trivial
      | some evaluation =>
          rcases evaluation with ⟨context, files⟩
          rcases evaluation?_eq_some.mp hfound with ⟨_, hcontext, _⟩
          have hmore : context.reviewers ⊆ withVoters change context := fun id hid =>
            (mem_withVoters hcontext).mpr (.inl hid)
          exact (Lockstep.mapM (sameCourse_fileStatus (context_votersReview hcontext) hmore)
            files).mono fun _ _ _ => trivial

end Engine

theorem PathStatus.AfterJoining.eq {owned : Prop} {first second : PathStatus}
    (h : first.AfterJoining owned second) (hnobody : ¬ owned) : second = first := by
  cases h.joined with
  | same => rfl
  | raised reason howned hopen => exact absurd howned hnobody

theorem FileStatus.Pathwise.eq {R : PathStatus → PathStatus → Prop} {first second : FileStatus}
    (h : first.Pathwise R second) (hsame : ∀ status found, R status found → found = status) :
    second = first := by
  have hpaths : ∀ {status found : Option PathStatus},
      List.Forall₂ R status.toList found.toList → found = status := by
    intro status found hrelated
    cases status with
    | none =>
        cases found with
        | none => rfl
        | some found => cases hrelated
    | some status =>
        cases found with
        | none => cases hrelated
        | some found =>
            cases hrelated with
            | cons hpath _ => rw [hsame _ _ hpath]
  rcases first with ⟨file, new, old⟩
  rcases second with ⟨file', new', old'⟩
  rcases h with ⟨hfile, hnew, hold⟩
  rw [show file' = file from hfile, show new' = new from hpaths hnew,
    show old' = old from hpaths hold]

namespace Engine

/-- If everybody who has voted on a change is made a reviewer, the evaluation takes the same course
and fails in the same way.  Where the votes of all voters count or they are reviewers already, it
comes to the same statuses.  The status of a path changes only if it is not approved and a voter
whose vote does not count owns the path: then it waits, where it may have lacked reviewers. -/
theorem fileStatuses_withVoters (engine : Engine) (change : Change) (revision : Option String)
    (s : Session) : ∃ outcome outcome' s',
      (engine.fileStatuses change revision).run s = (outcome, s') ∧
      (engine.fileStatuses change.withVoters revision).run s = (outcome', s') ∧
      Alike (List.Forall₂ (FileStatus.Pathwise fun status found =>
        status.AfterJoining (engine.OverlooksOwner change status.path s') found))
        outcome outcome' ∧
      ((∀ approval ∈ change.approvals, approval.accountId ∈ change.reviewers ∨
        engine.Approves change approval.accountId) → outcome' = outcome) := by
  rcases engine.sameCourse_withVoters change revision s with ⟨hsession, halike⟩
  rcases hrun : (engine.fileStatuses change revision).run s with ⟨outcome, s'⟩
  rcases hrun' : (engine.fileStatuses change.withVoters revision).run s with ⟨outcome', t'⟩
  rw [hrun, hrun'] at hsession halike
  change t' = s' at hsession
  rw [hsession] at hrun'
  refine ⟨outcome, outcome', s', rfl, by rw [hsession], ?_⟩
  cases halike with
  | failed failure => exact ⟨.failed failure, fun _ => rfl⟩
  | @done statuses _ _ =>
      have hloads := engine.loads_fileStatuses change revision
      rcases recalls_fileStatuses_withVoters (hloads.recalls hrun le_rfl) with
        ⟨found, hfound, hjoined⟩
      have hhistory : Session.OneHistory engine.site.tree s s' s s' :=
        ⟨s, s', .refl _ s, .refl _ s, le_rfl, le_rfl⟩
      have houtcome := (engine.loads_fileStatuses change.withVoters revision).outcome_of_recalls
        hfound (hloads.leadsTo hrun) hrun' hhistory
      rw [houtcome]
      refine ⟨.done hjoined, fun hcounted => ?_⟩
      have hnobody : ∀ path, ¬ engine.OverlooksOwner change path s' := by
        intro path hoverlooked
        rcases hoverlooked with ⟨_, _, approval, happroval, hreviewer, happroves, _⟩
        rcases hcounted approval happroval with hthere | hcounts
        · exact hreviewer hthere
        · exact happroves hcounts
      have hsame := hjoined.imp fun status other hpaths =>
        (hpaths.eq fun _ _ hpath => hpath.eq (hnobody _)).symm
      rw [List.forall₂_eq_eq_eq] at hsame
      rw [hsame]

/-!
# An objection

Bob, who owns the documents of the village, objects to the change of its map.  His vote does not
make him a reviewer, and the map lacks one.
-/

def objectedChange : Change :=
  { villageChange with
    reviewers := [], approvals := [{ accountId := 2, label := "Code-Review", value := -1 }] }

def wellStatus : FileStatus where
  file := { newPath := some "/well", kind := .added }
  new := some { path := "/well", status := .insufficientReviewers
                reason := some "no code owner is a reviewer" }

def objectedStatuses : List FileStatus :=
  [{ file := { newPath := some "/doc/map", kind := .modified }
     new := some { path := "/doc/map", status := .insufficientReviewers
                   reason := some "no code owner is a reviewer" } }, wellStatus]

def reviewedStatuses : List FileStatus :=
  [{ file := { newPath := some "/doc/map", kind := .modified }
     new := some { path := "/doc/map", status := .pending
                   reason := some "a code owner is a reviewer (/doc)" } }, wellStatus]

theorem objectedChange_statuses :
    ((village.fileStatuses objectedChange none).run {}).1.toOption = some objectedStatuses ∧
      ((village.fileStatuses objectedChange.withVoters none).run {}).1.toOption =
        some reviewedStatuses := by
  constructor <;> decide +kernel

theorem objection_is_no_review :
    ((village.fileStatuses objectedChange.withVoters none).run {}).1.toOption ≠
      ((village.fileStatuses objectedChange none).run {}).1.toOption := by
  rw [objectedChange_statuses.1, objectedChange_statuses.2]
  decide

/-- Ann, who approves the change, reviews it by her vote; Bob is overlooked. -/
theorem village_withVoters :
    villageChange.withVoters.reviewers = [3, 1] ∧
      (village.fileStatuses villageChange.withVoters none).run {} =
        (village.fileStatuses villageChange none).run {} ∧
      ∃ s, village.OverlooksOwner objectedChange "/doc/map" s := by
  refine ⟨rfl, ?_, ?_⟩
  · rcases fileStatuses_withVoters village villageChange none {} with
      ⟨outcome, outcome', s, hrun, hrun', _, hsame⟩
    rw [hrun, hrun', hsame]
    intro approval happroval
    rcases List.mem_singleton.mp happroval with rfl
    exact .inr ((mem_approvers_iff village_context).mp (by decide))
  · rcases fileStatuses_withVoters village objectedChange none {} with
      ⟨outcome, outcome', s, hrun, hrun', halike, _⟩
    have hfirst := objectedChange_statuses.1
    have hsecond := objectedChange_statuses.2
    rw [hrun] at hfirst
    rw [hrun'] at hsecond
    have houtcome : outcome = .ok objectedStatuses := eq_ok_of_toOption hfirst
    have houtcome' : outcome' = .ok reviewedStatuses := eq_ok_of_toOption hsecond
    rw [houtcome, houtcome'] at halike
    refine ⟨s, by_contra fun hnobody => ?_⟩
    cases halike with
    | done hfiles =>
        cases hfiles with
        | cons hmap _ =>
            cases hmap.new with
            | cons hpath _ => cases hpath.eq hnobody

end Engine
end Ownership
