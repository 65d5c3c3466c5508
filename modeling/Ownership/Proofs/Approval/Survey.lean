import Ownership.Proofs.Climb

/-!
# What a climb shows of a path

Two walks climb for a path: one folds the owners of each level into a status, the other looks for a
single account.  Both see the same owners at each level and agree on whether the global owners of
the project are shut out.
-/

namespace Ownership

variable {owners : PathOwners} {context : StatusContext} {status : OwnerStatus} {id : Int}

/-!
# Owners and accounts
-/

theorem PathOwners.hasAny_iff {ids : List Int} :
    owners.hasAny ids = true ↔ ∃ id ∈ ids, owners.has id = true := by
  unfold hasAny has
  cases owners.everybody with
  | true => cases ids <;> simp
  | false => simp

namespace StatusContext

def IsVoter (context : StatusContext) (id : Int) : Prop :=
  id = context.uploader ∨ id ∈ context.approvers

/-- Every approver is a reviewer. -/
def VotersReview (context : StatusContext) : Prop :=
  ∀ id ∈ context.approvers, id ∈ context.reviewers

end StatusContext

/-!
# Folding the owners of a level
-/

theorem OwnerStatus.max_pending (h : status ≠ .approved) : status.max .pending = .pending := by
  cases status with
  | approved => exact absurd rfl h
  | insufficientReviewers => rfl
  | pending => rfl

theorem foldLevel_of_voter (status : OwnerStatus) (hreview : context.VotersReview)
    (hvoter : context.IsVoter id) (hhas : owners.has id = true) :
    (foldLevel status owners context).status = .approved ∧
      (foldLevel status owners context).keepsWalking = false := by
  unfold foldLevel
  split
  · exact ⟨rfl, rfl⟩
  · rename_i huploader
    have happrover : id ∈ context.approvers := by
      rcases hvoter with rfl | happrover
      · exact absurd hhas huploader
      · exact happrover
    have happrovers : owners.hasAny context.approvers = true :=
      PathOwners.hasAny_iff.mpr ⟨id, happrover, hhas⟩
    have hreviewers : owners.hasAny context.reviewers = true :=
      PathOwners.hasAny_iff.mpr ⟨id, hreview id happrover, hhas⟩
    rw [happrovers, hreviewers]
    exact ⟨rfl, rfl⟩

theorem foldLevel_of_no_voter (status : OwnerStatus)
    (hnone : ∀ id, context.IsVoter id → owners.has id = false) :
    (foldLevel status owners context).status =
        (if owners.hasAny context.reviewers = true then status.max .pending else status) ∧
      (foldLevel status owners context).keepsWalking = true := by
  have happrovers : owners.hasAny context.approvers = false := by
    apply Bool.eq_false_iff.mpr
    intro hany
    rcases PathOwners.hasAny_iff.mp hany with ⟨id, hid, hhas⟩
    rw [hnone id (.inr hid)] at hhas
    cases hhas
  unfold foldLevel
  rw [hnone context.uploader (.inl rfl), happrovers]
  cases owners.hasAny context.reviewers <;> exact ⟨rfl, rfl⟩

theorem exists_voter_or_none (owners : PathOwners) (context : StatusContext) :
    (∃ id, context.IsVoter id ∧ owners.has id = true) ∨
      ∀ id, context.IsVoter id → owners.has id = false := by
  by_cases h : ∃ id, context.IsVoter id ∧ owners.has id = true
  · exact .inl h
  · right
    intro id hvoter
    cases hhas : owners.has id with
    | false => rfl
    | true => exact absurd ⟨id, hvoter, hhas⟩ h

namespace Engine

open Hierarchy Walk

variable {engine : Engine} {path : String} {level : Level} {ignoring ignores : Bool}

/-!
# What is seen at a level
-/

/-- Whether a level, or one before it, shuts out the global owners. -/
def shutsOut (path : String) (ignoring : Bool) (level : Level) : Except Failure Bool :=
  if ignoring then .ok true else (level.ignoresGlobalOwners path).mapError Failure.path

structure Sees (engine : Engine) (path : String) (ignoring : Bool) (level : Level)
    (owners : PathOwners) (ignores : Bool) : Prop where
  owners_eq : engine.resolver.pathOwners level.config path = .ok owners
  ignores_eq : shutsOut path ignoring level = .ok ignores

def statusStep (engine : Engine) (context : StatusContext) (path : String) : Visitor Progress :=
  fun progress level => do
    let owners ← (engine.resolver.pathOwners level.config path).mapError Failure.path
    let ignoresGlobal ← shutsOut path progress.ignoresGlobal level
    let progress := { progress with ignoresGlobal }.take
      (foldLevel progress.status owners context) level.folder
    return if progress.decided then .done progress else .yield progress

def searchStep (engine : Engine) (path : String) (id : Int) : Visitor Search :=
  fun search level => do
    let owners ← (engine.resolver.pathOwners level.config path).mapError Failure.path
    if owners.has id then return .done { search with found := true }
    else
      let ignoresGlobal ← shutsOut path search.ignoresGlobal level
      return .yield { search with ignoresGlobal }

theorem liftExcept_shutsOut (path : String) (ignoring : Bool) (level : Level) :
    (liftExcept (shutsOut path ignoring level) : Walk Bool) =
      if ignoring then pure true
      else liftExcept ((level.ignoresGlobalOwners path).mapError Failure.path) := by
  unfold shutsOut
  cases ignoring <;> rfl

theorem visitLevel_eq (engine : Engine) (context : StatusContext) (path : String)
    (progress : Progress) (level : Level) :
    engine.visitLevel context path progress level =
      liftExcept (engine.statusStep context path progress level) := by
  unfold visitLevel statusStep
  rw [liftExcept_bind]
  congr
  funext owners
  rw [liftExcept_bind, liftExcept_shutsOut]
  cases progress.ignoresGlobal <;> rfl

theorem searchLevel_eq (engine : Engine) (path : String) (id : Int) (search : Search)
    (level : Level) :
    engine.searchLevel path id search level =
      liftExcept (engine.searchStep path id search level) := by
  unfold searchLevel searchStep
  rw [liftExcept_bind]
  congr
  funext owners
  cases owners.has id with
  | true => rfl
  | false =>
      change _ = liftExcept (shutsOut path search.ignoresGlobal level >>= _)
      rw [liftExcept_bind, liftExcept_shutsOut]
      cases search.ignoresGlobal <;> rfl

/-!
# The steps in terms of what is seen
-/

def weigh (context : StatusContext) (progress : Progress) (level : Level) (owners : PathOwners)
    (ignores : Bool) : Progress :=
  { progress with ignoresGlobal := ignores }.take (foldLevel progress.status owners context)
    level.folder

theorem statusStep_of_sees (context : StatusContext) {progress : Progress}
    (h : engine.Sees path progress.ignoresGlobal level owners ignores) :
    engine.statusStep context path progress level =
      .ok (if (weigh context progress level owners ignores).decided = true
        then .done (weigh context progress level owners ignores)
        else .yield (weigh context progress level owners ignores)) := by
  unfold statusStep
  rw [h.owners_eq, h.ignores_eq]
  rfl

theorem sees_of_statusStep {progress : Progress} {step : ForInStep Progress}
    (h : engine.statusStep context path progress level = .ok step) :
    ∃ owners ignores, engine.Sees path progress.ignoresGlobal level owners ignores := by
  unfold statusStep at h
  cases howners : engine.resolver.pathOwners level.config path with
  | error failure =>
      rw [howners] at h
      cases h
  | ok owners =>
      cases hignores : shutsOut path progress.ignoresGlobal level with
      | error failure =>
          rw [howners, hignores] at h
          cases h
      | ok ignores => exact ⟨owners, ignores, howners, hignores⟩

theorem searchStep_of_sees (id : Int) {search : Search}
    (h : engine.Sees path search.ignoresGlobal level owners ignores) :
    engine.searchStep path id search level =
      .ok (if owners.has id = true then .done { search with found := true }
        else .yield { search with ignoresGlobal := ignores }) := by
  unfold searchStep
  rw [h.owners_eq, h.ignores_eq]
  change (if owners.has id = true then _ else _) = _
  cases owners.has id <;> rfl

theorem weigh_of_voter (progress : Progress) (level : Level) (ignores : Bool)
    (hreview : context.VotersReview) (hvoter : context.IsVoter id)
    (hhas : owners.has id = true) :
    (weigh context progress level owners ignores).decided = true ∧
      (weigh context progress level owners ignores).status = .approved := by
  rcases foldLevel_of_voter progress.status hreview hvoter hhas with ⟨hstatus, hkeeps⟩
  unfold weigh Progress.take
  rw [hstatus, hkeeps]
  exact ⟨rfl, rfl⟩

theorem weigh_of_no_voter (progress : Progress) (level : Level) (ignores : Bool)
    (hnone : ∀ id, context.IsVoter id → owners.has id = false) :
    (weigh context progress level owners ignores).decided = false ∧
      (weigh context progress level owners ignores).status =
        (if owners.hasAny context.reviewers = true then progress.status.max .pending
          else progress.status) := by
  rcases foldLevel_of_no_voter progress.status hnone with ⟨hstatus, hkeeps⟩
  unfold weigh Progress.take
  rw [hstatus, hkeeps]
  exact ⟨rfl, rfl⟩

theorem statusStep_eq_yield {progress next : Progress} (hreview : context.VotersReview)
    (h : engine.statusStep context path progress level = .ok (.yield next)) :
    ∃ owners ignores, engine.Sees path progress.ignoresGlobal level owners ignores ∧
      (∀ id, context.IsVoter id → owners.has id = false) ∧
      next = weigh context progress level owners ignores := by
  rcases sees_of_statusStep h with ⟨owners, ignores, hsees⟩
  rw [statusStep_of_sees context hsees] at h
  refine ⟨owners, ignores, hsees, ?_⟩
  rcases exists_voter_or_none owners context with ⟨id, hvoter, hhas⟩ | hnone
  · rw [(weigh_of_voter progress level ignores hreview hvoter hhas).1] at h
    cases h
  · rw [(weigh_of_no_voter progress level ignores hnone).1] at h
    cases h
    exact ⟨hnone, rfl⟩

theorem statusStep_eq_done {progress final : Progress}
    (h : engine.statusStep context path progress level = .ok (.done final)) :
    ∃ owners ignores id, engine.Sees path progress.ignoresGlobal level owners ignores ∧
      context.IsVoter id ∧ owners.has id = true ∧
      final = weigh context progress level owners ignores := by
  rcases sees_of_statusStep h with ⟨owners, ignores, hsees⟩
  rw [statusStep_of_sees context hsees] at h
  rcases exists_voter_or_none owners context with ⟨id, hvoter, hhas⟩ | hnone
  · refine ⟨owners, ignores, id, hsees, hvoter, hhas, ?_⟩
    split at h
    · cases h
      rfl
    · cases h
  · rw [(weigh_of_no_voter progress level ignores hnone).1] at h
    cases h

/-!
# Whole climbs

The owners seen at the levels of a climb, in order.
-/

inductive Surveys (engine : Engine) (path : String) :
    Bool → List Level → List PathOwners → Bool → Prop
  | nil {ignoring : Bool} : Surveys engine path ignoring [] [] ignoring
  | cons {ignoring ignores final : Bool} {level : Level} {rest : List Level}
      {owners : PathOwners} {seen : List PathOwners} :
      engine.Sees path ignoring level owners ignores →
      Surveys engine path ignores rest seen final →
      Surveys engine path ignoring (level :: rest) (owners :: seen) final

theorem Surveys.search {levels : List Level} {seen : List PathOwners}
    (h : Surveys engine path ignoring levels seen ignores) (id : Int) (search : Search)
    (hsearch : search.ignoresGlobal = ignoring) :
    if seen.any (fun owners => owners.has id) = true then
      ∃ final, visitAll (engine.searchStep path id) search levels = .ok (.done final) ∧
        final.found = true
    else visitAll (engine.searchStep path id) search levels =
      .ok (.yield { search with ignoresGlobal := ignores }) := by
  induction h generalizing search with
  | nil =>
      rw [← hsearch]
      rfl
  | cons hsees _ ih =>
      rename_i owners seen _
      rw [← hsearch] at hsees
      have hstep := searchStep_of_sees id hsees
      cases hhas : owners.has id with
      | true =>
          rw [hhas] at hstep
          rw [List.any_cons, hhas]
          exact ⟨_, visitAll_cons_of_done hstep _, rfl⟩
      | false =>
          rw [hhas] at hstep
          rw [List.any_cons, hhas, visitAll_cons_of_yield hstep]
          exact ih _ rfl

/-- A walk for a status that has not stopped has seen all levels, none of them with a voter. -/
theorem surveys_of_status {levels : List Level} {progress final : Progress}
    (hreview : context.VotersReview) (hstatus : progress.status ≠ .approved)
    (h : visitAll (engine.statusStep context path) progress levels = .ok (.yield final)) :
    ∃ seen, Surveys engine path progress.ignoresGlobal levels seen final.ignoresGlobal ∧
      (∀ owners ∈ seen, ∀ id, context.IsVoter id → owners.has id = false) ∧
      final.status = (if seen.any (fun owners => owners.hasAny context.reviewers) = true
        then .pending else progress.status) ∧
      (progress.decided = false → final.decided = false) := by
  induction levels generalizing progress with
  | nil =>
      cases h
      exact ⟨[], .nil, by simp, rfl, id⟩
  | cons level rest ih =>
      rcases visitAll_cons_eq_ok h with ⟨_, _, heq⟩ | ⟨next, hstep, hrest⟩
      · cases heq
      · rcases statusStep_eq_yield hreview hstep with ⟨owners, ignores, hsees, hnone, rfl⟩
        rcases weigh_of_no_voter progress level ignores hnone with ⟨hdecided, hweigh⟩
        rw [OwnerStatus.max_pending hstatus] at hweigh
        have hnext : (weigh context progress level owners ignores).status ≠ .approved := by
          rw [hweigh]
          split
          · intro heq
            cases heq
          · exact hstatus
        rcases ih hnext hrest with ⟨seen, hseen, hvoters, hfinal, hkept⟩
        refine ⟨owners :: seen, .cons hsees hseen, ?_, ?_, fun _ => hkept hdecided⟩
        · intro other hother
          rcases List.mem_cons.mp hother with rfl | hmem
          · exact hnone
          · exact hvoters other hmem
        · rw [hfinal, hweigh, List.any_cons]
          cases owners.hasAny context.reviewers <;>
            cases seen.any (fun owners => owners.hasAny context.reviewers) <;> rfl

/-- A walk for a status that has stopped has come to a level with a voter, and the search for this
voter stops there too. -/
theorem found_of_status {levels : List Level} {progress final : Progress} (search : Search)
    (hreview : context.VotersReview) (hsearch : search.ignoresGlobal = progress.ignoresGlobal)
    (h : visitAll (engine.statusStep context path) progress levels = .ok (.done final)) :
    final.decided = true ∧ final.status = .approved ∧ ∃ id, context.IsVoter id ∧
      ∃ found, visitAll (engine.searchStep path id) search levels = .ok (.done found) ∧
        found.found = true := by
  induction levels generalizing progress search with
  | nil => cases h
  | cons level rest ih =>
      rcases visitAll_cons_eq_ok h with ⟨last, hstep, heq⟩ | ⟨next, hstep, hrest⟩
      · cases heq
        rcases statusStep_eq_done hstep with ⟨owners, ignores, id, hsees, hvoter, hhas, rfl⟩
        rcases weigh_of_voter progress level ignores hreview hvoter hhas with ⟨hdecided, hstatus⟩
        rw [← hsearch] at hsees
        have hfound := searchStep_of_sees id hsees
        rw [hhas] at hfound
        exact ⟨hdecided, hstatus, id, hvoter, _, visitAll_cons_of_done hfound rest, rfl⟩
      · rcases statusStep_eq_yield hreview hstep with ⟨owners, ignores, hsees, hnone, rfl⟩
        rw [← hsearch] at hsees
        rcases ih { search with ignoresGlobal := ignores } rfl hrest with
          ⟨hdecided, hstatus, id, hvoter, found, hall, hfound⟩
        have hmissed := searchStep_of_sees id hsees
        rw [hnone id hvoter] at hmissed
        refine ⟨hdecided, hstatus, id, hvoter, found, ?_, hfound⟩
        rw [visitAll_cons_of_yield hmissed]
        exact hall

end Engine
end Ownership
