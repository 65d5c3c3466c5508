import Ownership.Proofs.Approval.Context

/-!
# What the status of a path means

The status of a path is folded from the owners of its levels, with an early end.  It means something
that can be said without any order of levels: a path is approved if its uploader or an approver
owns it, pending if none of them does but a reviewer, and without reviewers otherwise.  Who owns a
path is what the search for the account answers.
-/

namespace Ownership

open Walk Hierarchy

variable {context : StatusContext} {s s' : Session}

/-!
# Verdicts

What a status says about the answers that accounts get when they ask whether they own the path.
-/

inductive Verdict (context : StatusContext) (answers : Int → Bool → Prop) : OwnerStatus → Prop
  | approved {id : Int} : context.IsVoter id → answers id true → Verdict context answers .approved
  | pending {id : Int} : (∀ voter, context.IsVoter voter → answers voter false) →
      id ∈ context.reviewers → answers id true → Verdict context answers .pending
  | insufficientReviewers : (∀ voter, context.IsVoter voter → answers voter false) →
      (∀ id ∈ context.reviewers, answers id false) →
      Verdict context answers .insufficientReviewers

namespace Verdict

variable {answers : Int → Bool → Prop} {status : OwnerStatus}

theorem mono {answers' : Int → Bool → Prop} (h : Verdict context answers status)
    (himp : ∀ id owns, answers id owns → answers' id owns) : Verdict context answers' status := by
  cases h with
  | approved hvoter hid => exact .approved hvoter (himp _ _ hid)
  | pending hnone hreviewer hid =>
      exact .pending (fun voter hvoter => himp _ _ (hnone voter hvoter)) hreviewer (himp _ _ hid)
  | insufficientReviewers hnone hreviewers =>
      exact .insufficientReviewers (fun voter hvoter => himp _ _ (hnone voter hvoter))
        fun id hid => himp _ _ (hreviewers id hid)

variable (hunique : ∀ id, answers id true → ¬ answers id false)
include hunique

theorem approved_iff (h : Verdict context answers status) :
    status = .approved ↔ ∃ id, context.IsVoter id ∧ answers id true := by
  cases h with
  | approved hvoter hid => exact ⟨fun _ => ⟨_, hvoter, hid⟩, fun _ => rfl⟩
  | pending hnone _ _ =>
      constructor
      · intro heq
        cases heq
      · intro hsome
        rcases hsome with ⟨id, hvoter, hid⟩
        exact absurd (hnone id hvoter) (hunique id hid)
  | insufficientReviewers hnone _ =>
      constructor
      · intro heq
        cases heq
      · intro hsome
        rcases hsome with ⟨id, hvoter, hid⟩
        exact absurd (hnone id hvoter) (hunique id hid)

theorem pending_iff (h : Verdict context answers status) :
    status = .pending ↔ status ≠ .approved ∧ ∃ id ∈ context.reviewers, answers id true := by
  cases h with
  | approved _ _ =>
      constructor
      · intro heq
        cases heq
      · intro hboth
        rcases hboth with ⟨hne, _⟩
        exact absurd rfl hne
  | pending _ hreviewer hid =>
      refine ⟨fun _ => ⟨?_, _, hreviewer, hid⟩, fun _ => rfl⟩
      intro heq
      cases heq
  | insufficientReviewers _ hreviewers =>
      constructor
      · intro heq
        cases heq
      · intro hsome
        rcases hsome with ⟨_, id, hreviewer, hid⟩
        exact absurd (hreviewers id hreviewer) (hunique id hid)

theorem insufficientReviewers_iff (h : Verdict context answers status) :
    status = .insufficientReviewers ↔
      status ≠ .approved ∧ ¬ ∃ id ∈ context.reviewers, answers id true := by
  have hpending := h.pending_iff hunique
  cases status with
  | approved => simp
  | pending => simp [(hpending.mp rfl).2]
  | insufficientReviewers =>
      refine ⟨fun _ => ⟨by decide, fun hany => ?_⟩, fun _ => rfl⟩
      cases hpending.mpr ⟨by decide, hany⟩

end Verdict

namespace Engine

variable {engine : Engine} {path : String} {id : Int}

/-!
# Answers from a climb
-/

/-- What an account is told that asks in `s`, at the cost of no more reading than leads to `s'`. -/
def Answers (engine : Engine) (context : StatusContext) (path : String) (s s' : Session)
    (id : Int) (owns : Bool) : Prop :=
  ∃ t, (engine.isOwner context path id).run s = (.ok owns, t) ∧ t ≤ s'

def globals (engine : Engine) (context : StatusContext) (ignores : Bool) : List PathOwners :=
  if (ignores || context.globalOwners.isEmpty) = true then []
  else [engine.resolver.resolve context.globalOwners]

/-- In a branch with configurations the search for an account is a climb from the revision of the
context. -/
theorem isOwner_of_revision {revision : String} (hboot : context.bootstrapping = false)
    (hrevision : context.revision = some revision) :
    engine.isOwner context path id =
      (visitLevels engine.site
        { project := context.project, branch := context.branch, revision, path } {}
        (engine.searchLevel path id) >>= fun search =>
          if search.found then pure true
          else if search.ignoresGlobal || context.globalOwners.isEmpty then pure false
          else pure ((engine.resolver.resolve context.globalOwners).has id)) := by
  unfold isOwner ownerRevision
  rw [hboot, hrevision]
  rfl

theorem run_isOwner_of_surveys {revision : String} {levels : List Level} {seen : List PathOwners}
    {ignores : Bool} (hboot : context.bootstrapping = false)
    (hrevision : context.revision = some revision)
    (hshows : Shows engine.site
      { project := context.project, branch := context.branch, revision, path } s levels true s')
    (hseen : Surveys engine path false levels seen ignores) :
    engine.Answers context path s s' id
      ((seen ++ engine.globals context ignores).any fun owners => owners.has id) := by
  unfold Answers
  rw [isOwner_of_revision hboot hrevision]
  have hsearch := hseen.search id {} rfl
  rw [List.any_append]
  cases hany : seen.any fun owners => owners.has id with
  | true =>
      rw [hany] at hsearch
      rcases hsearch with ⟨final, hall, hfound⟩
      rcases hshows.run_of_done (engine.searchLevel_eq path id) hall with ⟨t, hrun, hle⟩
      refine ⟨t, ?_, hle⟩
      rw [run_bind_of_ok hrun, hfound]
      rfl
  | false =>
      rw [hany] at hsearch
      refine ⟨s', ?_, le_rfl⟩
      rw [run_bind_of_ok (hshows.run_of_yield (engine.searchLevel_eq path id) hsearch)]
      unfold globals
      dsimp only
      cases (ignores || context.globalOwners.isEmpty) with
      | true => rfl
      | false => simp

theorem run_isOwner_of_found {revision : String} {levels : List Level} {complete : Bool}
    {found : Search} (hboot : context.bootstrapping = false)
    (hrevision : context.revision = some revision)
    (hshows : Shows engine.site
      { project := context.project, branch := context.branch, revision, path } s levels complete s')
    (hall : visitAll (engine.searchStep path id) {} levels = .ok (.done found))
    (hfound : found.found = true) : engine.Answers context path s s' id true := by
  unfold Answers
  rw [isOwner_of_revision hboot hrevision]
  rcases hshows.run_of_done (engine.searchLevel_eq path id) hall with ⟨t, hrun, hle⟩
  refine ⟨t, ?_, hle⟩
  rw [run_bind_of_ok hrun, hfound]
  rfl

/-!
# The verdict of a walk
-/

theorem verdict_of_seen {seen : List PathOwners} {answers : Int → Bool → Prop}
    (hanswers : ∀ id, answers id (seen.any fun owners => owners.has id))
    (hnone : ∀ owners ∈ seen, ∀ id, context.IsVoter id → owners.has id = false) :
    Verdict context answers
      (if seen.any (fun owners => owners.hasAny context.reviewers) = true then .pending
        else .insufficientReviewers) := by
  have hvoters : ∀ voter, context.IsVoter voter → answers voter false := by
    intro voter hvoter
    have hmissed : (seen.any fun owners => owners.has voter) = false := by
      rw [List.any_eq_false]
      intro owners howners
      rw [hnone owners howners voter hvoter]
      exact Bool.false_ne_true
    rw [← hmissed]
    exact hanswers voter
  split
  · rename_i hany
    rcases List.any_eq_true.mp hany with ⟨owners, howners, hreviewers⟩
    rcases PathOwners.hasAny_iff.mp hreviewers with ⟨id, hreviewer, hhas⟩
    have hfound : (seen.any fun owners => owners.has id) = true :=
      List.any_eq_true.mpr ⟨owners, howners, hhas⟩
    refine .pending hvoters hreviewer ?_
    rw [← hfound]
    exact hanswers id
  · rename_i hany
    refine .insufficientReviewers hvoters fun id hreviewer => ?_
    have hmissed : (seen.any fun owners => owners.has id) = false := by
      rw [List.any_eq_false]
      intro owners howners hhas
      exact hany (List.any_eq_true.mpr
        ⟨owners, howners, PathOwners.hasAny_iff.mpr ⟨id, hreviewer, hhas⟩⟩)
    rw [← hmissed]
    exact hanswers id

def closingStatus (engine : Engine) (context : StatusContext) (progress : Progress) : OwnerStatus :=
  if (progress.decided || progress.ignoresGlobal || context.globalOwners.isEmpty) = true then
    progress.status
  else
    (foldLevel progress.status (engine.resolver.resolve context.globalOwners) context).status

/-- A level after the others leaves a verdict on all of them. -/
theorem verdict_of_last_level {seen : List PathOwners} {last : PathOwners} {status : OwnerStatus}
    {answers : Int → Bool → Prop} (hreview : context.VotersReview)
    (hanswers : ∀ id, answers id ((seen ++ [last]).any fun owners => owners.has id))
    (hnone : ∀ owners ∈ seen, ∀ id, context.IsVoter id → owners.has id = false)
    (hfolded : status = (if seen.any (fun owners => owners.hasAny context.reviewers) = true
      then .pending else .insufficientReviewers)) :
    Verdict context answers (foldLevel status last context).status := by
  rcases exists_voter_or_none last context with ⟨id, hvoter, hhas⟩ | hlast
  · rw [(foldLevel_of_voter _ hreview hvoter hhas).1]
    refine .approved hvoter ?_
    have hfound := hanswers id
    rw [List.any_append, List.any_cons, hhas, Bool.true_or, Bool.or_true] at hfound
    exact hfound
  · have hnone' : ∀ owners ∈ seen ++ [last], ∀ id, context.IsVoter id →
        owners.has id = false := by
      intro owners howners
      rcases List.mem_append.mp howners with hmem | hmem
      · exact hnone owners hmem
      · rw [List.mem_singleton.mp hmem]
        exact hlast
    have hverdict := verdict_of_seen hanswers hnone'
    rw [List.any_append, List.any_cons, List.any_nil, Bool.or_false] at hverdict
    rw [(foldLevel_of_no_voter _ hlast).1, hfolded]
    cases hseen : seen.any fun owners => owners.hasAny context.reviewers <;>
      cases hreviewers : last.hasAny context.reviewers <;>
      rw [hseen, hreviewers] at hverdict <;> exact hverdict

theorem verdict_of_closingStatus {seen : List PathOwners} {progress : Progress}
    {answers : Int → Bool → Prop} (hreview : context.VotersReview)
    (hopen : progress.decided = false)
    (hanswers : ∀ id, answers id
      ((seen ++ engine.globals context progress.ignoresGlobal).any fun owners => owners.has id))
    (hnone : ∀ owners ∈ seen, ∀ id, context.IsVoter id → owners.has id = false)
    (hfolded : progress.status = (if seen.any (fun owners => owners.hasAny context.reviewers) = true
      then .pending else .insufficientReviewers)) :
    Verdict context answers (engine.closingStatus context progress) := by
  unfold closingStatus
  unfold globals at hanswers
  rw [hopen, Bool.false_or]
  cases hshut : progress.ignoresGlobal || context.globalOwners.isEmpty with
  | true =>
      simp only [hshut, if_true, List.append_nil] at hanswers
      rw [if_pos rfl, hfolded]
      exact verdict_of_seen hanswers hnone
  | false =>
      simp only [hshut, Bool.false_eq_true, if_false] at hanswers
      rw [if_neg Bool.false_ne_true]
      exact verdict_of_last_level hreview hanswers hnone hfolded

theorem run_regularStatus {status : PathStatus}
    (hrun : (engine.regularStatus context path).run s = (.ok status, s')) :
    ∃ revision progress, context.revision = some revision ∧
      (visitLevels engine.site
        { project := context.project, branch := context.branch, revision, path } {}
        (engine.visitLevel context path)).run s = (.ok progress, s') ∧
      status.path = path ∧ status.status = engine.closingStatus context progress := by
  unfold regularStatus at hrun
  cases hrevision : context.revision with
  | none =>
      rw [hrevision] at hrun
      cases hrun
  | some revision =>
      rw [hrevision] at hrun
      rcases run_bind_eq_ok.mp hrun with ⟨progress, t, hclimb, hrest⟩
      cases hrest
      refine ⟨revision, progress, rfl, hclimb, rfl, ?_⟩
      unfold closingStatus
      dsimp only
      split <;> rfl

theorem verdict_of_regularStatus {status : PathStatus} (hreview : context.VotersReview)
    (hboot : context.bootstrapping = false)
    (hrun : (engine.regularStatus context path).run s = (.ok status, s')) :
    Verdict context (engine.Answers context path s s') status.status := by
  rcases run_regularStatus hrun with ⟨revision, progress, hrevision, hclimb, _, hstatus⟩
  rcases shows_of_run (engine.visitLevel_eq context path) hclimb with
    ⟨levels, complete, hshows, hall⟩
  rw [hstatus]
  cases complete with
  | false =>
      rcases found_of_status {} hreview rfl hall with
        ⟨hdecided, happroved, id, hvoter, found, hsearch, hfound⟩
      unfold closingStatus
      rw [hdecided, happroved]
      exact .approved hvoter (run_isOwner_of_found hboot hrevision hshows hsearch hfound)
  | true =>
      rcases surveys_of_status hreview (by decide) hall with ⟨seen, hseen, hnone, hfolded, hopen⟩
      exact verdict_of_closingStatus hreview (hopen rfl)
        (fun id => run_isOwner_of_surveys hboot hrevision hshows hseen) hnone hfolded

theorem verdict_of_bootstrapStatus (hboot : context.bootstrapping = true) (path : String)
    (s : Session) :
    Verdict context (engine.Answers context path s s)
      (engine.bootstrapStatus context path).status := by
  have himp : ∀ id owns, engine.isProjectOwner context id = owns →
      engine.Answers context path s s id owns := by
    intro id owns h
    rcases h with rfl
    refine ⟨s, ?_, le_rfl⟩
    unfold isOwner
    rw [hboot]
    rfl
  unfold bootstrapStatus
  dsimp only
  split
  · rename_i huploader
    exact .approved (.inl rfl) (himp _ _ huploader)
  · rename_i huploader
    split
    · rename_i happrovers
      rcases List.any_eq_true.mp happrovers with ⟨id, hid, howner⟩
      exact .approved (.inr hid) (himp _ _ howner)
    · rename_i happrovers
      have hvoters : ∀ voter, context.IsVoter voter →
          engine.isProjectOwner context voter = false := by
        intro voter hvoter
        apply Bool.eq_false_iff.mpr
        intro howner
        rcases hvoter with rfl | happrover
        · exact huploader howner
        · exact happrovers (List.any_eq_true.mpr ⟨voter, happrover, howner⟩)
      split
      · rename_i hreviewers
        rcases List.any_eq_true.mp hreviewers with ⟨id, hid, howner⟩
        exact .pending (fun voter hvoter => himp _ _ (hvoters voter hvoter)) hid (himp _ _ howner)
      · rename_i hreviewers
        refine .insufficientReviewers (fun voter hvoter => himp _ _ (hvoters voter hvoter))
          fun id hid => himp _ _ (Bool.eq_false_iff.mpr fun howner => ?_)
        exact hreviewers (List.any_eq_true.mpr ⟨id, hid, howner⟩)

theorem verdict_of_pathStatus {status : PathStatus} (hreview : context.VotersReview)
    (hoverride : context.hasOverride = false)
    (hrun : (engine.pathStatus context path).run s = (.ok status, s')) :
    Verdict context (engine.Answers context path s s') status.status := by
  unfold pathStatus at hrun
  rw [hoverride, if_neg Bool.false_ne_true] at hrun
  cases hboot : context.bootstrapping with
  | true =>
      rw [hboot, if_pos rfl] at hrun
      cases hrun
      exact verdict_of_bootstrapStatus hboot path s
  | false =>
      rw [hboot, if_neg Bool.false_ne_true] at hrun
      exact verdict_of_regularStatus hreview hboot hrun

/-!
# Status and ownership

The status of a path is said in terms of the accounts that own it.  Ownership may be asked for in
the session that the status was computed in, or at any later time.
-/

def Owns (engine : Engine) (context : StatusContext) (path : String) (s : Session) (id : Int) :
    Prop :=
  ∃ t, (engine.isOwner context path id).run s = (.ok true, t)

theorem run_of_answers {t : Session} {owns : Bool}
    (h : engine.Answers context path s s' id owns) (hnow : t = s ∨ s' ≤ t) :
    ∃ t', (engine.isOwner context path id).run t = (.ok owns, t') := by
  rcases h with ⟨u, hrun, hle⟩
  rcases hnow with rfl | hlater
  · exact ⟨u, hrun⟩
  · rcases (engine.loads_isOwner context path id).recalls hrun (le_trans hle hlater) with
      ⟨t', hagain, _⟩
    exact ⟨t', hagain⟩

theorem status_iff_owners {change : Change} {t : Session} {status : PathStatus}
    (hcontext : engine.context change = .ok context) (hoverride : ¬ engine.HasOverride change)
    (hrun : (engine.pathStatus context path).run s = (.ok status, s'))
    (hnow : t = s ∨ s' ≤ t) :
    (status.status = .approved ↔ ∃ id, (id = change.uploader ∨ engine.Approves change id) ∧
      engine.Owns context path t id) ∧
    (status.status = .pending ↔ status.status ≠ .approved ∧
      ∃ id ∈ change.reviewers, engine.Owns context path t id) ∧
    (status.status = .insufficientReviewers ↔ status.status ≠ .approved ∧
      ¬ ∃ id ∈ change.reviewers, engine.Owns context path t id) := by
  have hregular : context.hasOverride = false := by
    apply Bool.eq_false_iff.mpr
    intro hover
    exact hoverride ((context_hasOverride_iff hcontext).mp hover)
  have hverdict : Verdict context
      (fun id owns => ∃ t', (engine.isOwner context path id).run t = (.ok owns, t'))
      status.status :=
    (verdict_of_pathStatus (context_votersReview hcontext) hregular hrun).mono
      fun id owns h => run_of_answers h hnow
  have hunique : ∀ id, (∃ t', (engine.isOwner context path id).run t = (.ok true, t')) →
      ¬ ∃ t', (engine.isOwner context path id).run t = (.ok false, t') := by
    intro id howns hnot
    rcases howns with ⟨u, htrue⟩
    rcases hnot with ⟨v, hfalse⟩
    rw [htrue] at hfalse
    cases hfalse
  have happroved : status.status = .approved ↔
      ∃ id, context.IsVoter id ∧ engine.Owns context path t id :=
    hverdict.approved_iff hunique
  have hnone : status.status ≠ .approved → ∀ id, context.IsVoter id →
      ¬ engine.Owns context path t id :=
    fun hne id hvoter howns => hne (happroved.mpr ⟨id, hvoter, howns⟩)
  refine ⟨?_, ?_, ?_⟩
  · rw [happroved, exists_voter_iff hcontext]
  · rw [hverdict.pending_iff hunique]
    exact and_congr_right fun hne => exists_reviewer_iff hcontext (hnone hne)
  · rw [hverdict.insufficientReviewers_iff hunique]
    exact and_congr_right fun hne => not_congr (exists_reviewer_iff hcontext (hnone hne))

/-!
# A village

In the village Ann owns everything, Bob the documents, and Eve is a global owner.  Ann approves a
change that Eve has been asked to review.
-/

def village : Engine where
  site := {
    tree := {
      branchHead _ _ := .ok (some "tip")
      containsRevision _ _ _ := .ok true
      contentOf _ _ path := .ok (
        if path = "/OWNERS" then some "ann@village\n".toUTF8.toList
        else if path = "/doc/OWNERS" then some "bob@village\n".toUTF8.toList
        else none)
      listFiles _ _ := .ok ["/OWNERS", "/doc/OWNERS"] }
    configs := ({} : ProjectConfigs).put "village" { globalOwners := ["eve@village"] } }
  directory := Directory.ofList [
    { id := 1, emails := ["ann@village"] },
    { id := 2, emails := ["bob@village"] },
    { id := 3, emails := ["eve@village"] }]
  changedFiles _ _ _ := .ok [
    { newPath := some "/doc/map", kind := .modified },
    { newPath := some "/well", kind := .added }]

def villageChange : Change where
  project := "village"
  branch := "main"
  number := 1
  owner := 9
  uploader := 9
  currentRevision := "new"
  reviewers := [3]
  approvals := [{ accountId := 1, label := "Code-Review", value := 1 }]

def villageContext : StatusContext where
  project := "village"
  branch := "main"
  revision := some "tip"
  uploader := 9
  reviewers := [3, 1]
  approvers := [1]
  hasOverride := false
  bootstrapping := false
  globalOwners := [{ email := "eve@village" }]

theorem village_context : village.context villageChange = .ok villageContext := by
  have hcontext : (village.context villageChange).toOption = some villageContext := by
    decide +kernel
  exact eq_ok_of_toOption hcontext

theorem village_not_hasOverride : ¬ village.HasOverride villageChange := by
  intro hsome
  rcases hsome with ⟨override, h, _⟩
  cases h

theorem village_status_iff_owners :
    ∃ status s', (village.pathStatus villageContext "/doc/map").run {} = (.ok status, s') ∧
      status.status = .approved ∧
      (status.status = .approved ↔
        ∃ id, (id = villageChange.uploader ∨ village.Approves villageChange id) ∧
          village.Owns villageContext "/doc/map" s' id) := by
  have hstatus : ((village.pathStatus villageContext "/doc/map").run {}).1.toOption =
      some { path := "/doc/map", status := .approved
             reason := some "a code owner approved the change (/)" } := by
    decide +kernel
  have hrun := run_of_toOption hstatus
  exact ⟨_, _, hrun, rfl,
    (status_iff_owners village_context village_not_hasOverride hrun (.inr le_rfl)).1⟩

end Engine
end Ownership
