import Ownership.Proofs.Approval.Verdict
import Ownership.Proofs.Suggestion.Candidates
import Ownership.Tree.History

/-!
# Suggested owners can approve

Suggesting and evaluating climb for a path in two walks of their own.  Both see the same levels, and
the owners that a suggestion is collected from are owners in the evaluation too, which hides nobody.
So whoever is suggested can approve the path, as long as the branch has configurations at all.
-/

namespace Ownership

open Walk Hierarchy

variable {path other : String} {s s' : Session} {id : Int}

/-!
# Paths with one normal form

Whatever is asked about a path depends on its normal form alone.
-/

section

variable (hpath : Path.normalize path = Path.normalize other)
include hpath

theorem Resolver.pathOwners_congr (resolver : Resolver) (config : OwnerConfig) :
    resolver.pathOwners config path = resolver.pathOwners config other := by
  unfold Resolver.pathOwners
  rw [hpath]

theorem Path.relativeTo_congr {folder relative : String}
    (h : Path.relativeTo folder path = .ok relative) :
    Path.relativeTo folder other = .ok relative := by
  rcases except_bind_eq_ok.mp h with ⟨normal, hnormal, hrest⟩
  rcases except_bind_eq_ok.mp hrest with ⟨base, hbase, hrelative⟩
  refine except_bind_eq_ok.mpr ⟨normal, hpath.symm.trans hnormal, ?_⟩
  refine except_bind_eq_ok.mpr ⟨base, hbase, ?_⟩
  split at hrelative
  · rename_i hroot
    rw [if_pos hroot]
    exact hrelative
  · rename_i hinner
    rw [if_neg hinner]
    split at hrelative
    · exact hrelative
    · cases hrelative

theorem Hierarchy.Level.ignoresGlobalOwners_congr {level : Level} {ignores : Bool}
    (h : level.ignoresGlobalOwners path = .ok ignores) :
    level.ignoresGlobalOwners other = .ok ignores := by
  rcases except_bind_eq_ok.mp h with ⟨sets, hsets, hignores⟩
  rcases except_bind_eq_ok.mp hsets with ⟨relative, hrelative, hfound⟩
  refine except_bind_eq_ok.mpr ⟨sets, ?_, hignores⟩
  exact except_bind_eq_ok.mpr ⟨relative, Path.relativeTo_congr hpath hrelative, hfound⟩

theorem Hierarchy.prepare_congr (site : Site) (project branch revision : String) :
    prepare site { project, branch, revision, path } =
      prepare site { project, branch, revision, path := other } := by
  unfold prepare
  rw [hpath]

end

namespace Engine

variable {engine : Engine} {context : StatusContext} {levels : List Level}
  {seen : List PathOwners} {ignoring ignores : Bool}

/-!
# Statuses after complete climbs
-/

/-- The walk for a status stops at the first level with a voter and otherwise sees all levels. -/
theorem Surveys.status (h : Surveys engine path ignoring levels seen ignores)
    (hreview : context.VotersReview) {progress : Progress}
    (hprogress : progress.ignoresGlobal = ignoring) (hopen : progress.decided = false) :
    (∃ final, visitAll (engine.statusStep context path) progress levels = .ok (.done final) ∧
      final.decided = true ∧ final.status = .approved) ∨
    ∃ final, visitAll (engine.statusStep context path) progress levels = .ok (.yield final) ∧
      final.decided = false ∧ final.ignoresGlobal = ignores ∧
      ∀ owners ∈ seen, ∀ id, context.IsVoter id → owners.has id = false := by
  induction h generalizing progress with
  | nil => exact .inr ⟨progress, rfl, hopen, hprogress, fun owners howners => nomatch howners⟩
  | cons hsees hrest ih =>
      rename_i ignores _ level rest owners seen
      rw [← hprogress] at hsees
      have hstep := statusStep_of_sees context hsees
      rcases exists_voter_or_none owners context with ⟨id, hvoter, hhas⟩ | hnone
      · rcases weigh_of_voter progress level ignores hreview hvoter hhas with ⟨hdecided, hstatus⟩
        rw [hdecided, if_pos rfl] at hstep
        exact .inl ⟨_, visitAll_cons_of_done hstep rest, hdecided, hstatus⟩
      · rcases weigh_of_no_voter progress level ignores hnone with ⟨hdecided, _⟩
        rw [hdecided, if_neg Bool.false_ne_true] at hstep
        rw [visitAll_cons_of_yield hstep]
        rcases ih rfl hdecided with hdone | ⟨final, hall, hundecided, hignores, hothers⟩
        · exact .inl hdone
        · refine .inr ⟨final, hall, hundecided, hignores, fun other hother => ?_⟩
          rcases List.mem_cons.mp hother with rfl | hmem
          · exact hnone
          · exact hothers other hmem

theorem run_regularStatus_of_visit {revision : String} {progress : Progress}
    (hrevision : context.revision = some revision)
    (hrun : (visitLevels engine.site
        { project := context.project, branch := context.branch, revision, path } {}
        (engine.visitLevel context path)).run s = (.ok progress, s')) :
    ∃ status, (engine.regularStatus context path).run s = (.ok status, s') ∧
      status.status = engine.closingStatus context progress := by
  unfold regularStatus
  rw [hrevision]
  refine ⟨_, run_bind_eq_ok.mpr ⟨progress, s', hrun, rfl⟩, ?_⟩
  unfold closingStatus
  dsimp only
  split <;> rfl

theorem approved_of_surveys {revision : String} (hreview : context.VotersReview)
    (hrevision : context.revision = some revision)
    (hshows : Shows engine.site
      { project := context.project, branch := context.branch, revision, path } s levels true s')
    (hseen : Surveys engine path false levels seen ignores) (hvoter : context.IsVoter id)
    (howner : ∃ owners ∈ seen ++ engine.globals context ignores, owners.has id = true) :
    ∃ status t, (engine.regularStatus context path).run s = (.ok status, t) ∧ t ≤ s' ∧
      status.status = .approved := by
  rcases hseen.status hreview (rfl : ({} : Progress).ignoresGlobal = false) rfl with
    ⟨final, hall, hdecided, happroved⟩ | ⟨final, hall, hopen, hignores, hnone⟩
  · rcases hshows.run_of_done (engine.visitLevel_eq context path) hall with ⟨t, hvisit, hle⟩
    rcases run_regularStatus_of_visit hrevision hvisit with ⟨status, hrun, hstatus⟩
    refine ⟨status, t, hrun, hle, ?_⟩
    rw [hstatus]
    unfold closingStatus
    rw [hdecided]
    exact happroved
  · have hvisit := hshows.run_of_yield (engine.visitLevel_eq context path) hall
    rcases run_regularStatus_of_visit hrevision hvisit with ⟨status, hrun, hstatus⟩
    refine ⟨status, s', hrun, le_rfl, ?_⟩
    rw [hstatus]
    rcases howner with ⟨owners, howners, hhas⟩
    rcases List.mem_append.mp howners with hlevel | hglobal
    · rw [hnone owners hlevel id hvoter] at hhas
      cases hhas
    · unfold closingStatus
      unfold globals at hglobal
      rw [hopen, hignores, Bool.false_or]
      split at hglobal
      · cases hglobal
      · rename_i hasked
        rw [if_neg hasked, ← List.mem_singleton.mp hglobal]
        exact (foldLevel_of_voter _ hreview hvoter hhas).1

theorem approved_of_bootstrap (hvoter : id ∈ context.approvers)
    (howner : engine.isProjectOwner context id = true) :
    (engine.bootstrapStatus context path).status = .approved := by
  have hany : context.approvers.any (engine.isProjectOwner context) = true :=
    List.any_eq_true.mpr ⟨id, hvoter, howner⟩
  unfold bootstrapStatus
  dsimp only
  rw [hany, if_pos rfl]
  split <;> rfl

end Engine

namespace Suggester

variable {suggester : Suggester} {engine : Engine} {candidates : Candidates} {levels : List Level}

/-!
# What a suggestion is collected from
-/

def collectStep (suggester : Suggester) (path : String) : Visitor Candidates :=
  fun candidates level => do
    let owners ← (suggester.resolver.pathOwners level.config path).mapError Failure.path
    let collected := candidates.collect owners level.distance
    let ignoresGlobal ← Engine.shutsOut path collected.ignoresGlobal level
    return .yield { collected with ignoresGlobal }

theorem visitLevel_eq (suggester : Suggester) (path : String) (candidates : Candidates)
    (level : Level) :
    suggester.visitLevel path candidates level =
      liftExcept (suggester.collectStep path candidates level) := by
  unfold visitLevel collectStep
  rw [liftExcept_bind]
  congr
  funext owners
  rw [liftExcept_bind, Engine.liftExcept_shutsOut]
  dsimp only
  cases (candidates.collect owners level.distance).ignoresGlobal <;> rfl

theorem loads_visitLevel {tree : Tree} (suggester : Suggester) (path : String)
    (candidates : Candidates) (level : Level) :
    Loads tree (suggester.visitLevel path candidates level) := by
  rw [visitLevel_eq]
  exact loads_liftExcept _

variable (hdirectory : suggester.directory = engine.directory)
  (hpath : Path.normalize path = Path.normalize other)
include hdirectory hpath

/-- The evaluation sees at a level at least the owners that the suggestion collects there. -/
theorem sees_of_collectStep {level : Level} {step : ForInStep Candidates}
    (h : suggester.collectStep path candidates level = .ok step) :
    ∃ next owners, step = .yield next ∧
      Engine.Sees engine other candidates.ignoresGlobal level owners next.ignoresGlobal ∧
      ∀ id ∈ next.distances.keys, id ∈ candidates.distances.keys ∨ owners.has id = true := by
  rcases except_bind_eq_ok.mp h with ⟨collected, howners, hrest⟩
  rcases except_bind_eq_ok.mp hrest with ⟨ignores, hignores, hend⟩
  cases hend
  rw [Candidates.ignoresGlobal_collect] at hignores
  have hfound := except_mapError_eq_ok.mp howners
  rw [Resolver.pathOwners_congr hpath] at hfound
  rcases Resolver.accounts_pathOwners_subset engine.resolver hdirectory (fun _ => rfl)
    hfound with ⟨owners, hsees, hsubset⟩
  refine ⟨_, owners, rfl, ⟨hsees, ?_⟩, fun id hid => ?_⟩
  · unfold Engine.shutsOut at hignores ⊢
    split at hignores
    · rename_i hbefore
      rw [if_pos hbefore]
      exact hignores
    · rename_i hbefore
      rw [if_neg hbefore]
      exact except_mapError_eq_ok.mpr
        (Level.ignoresGlobalOwners_congr hpath (except_mapError_eq_ok.mp hignores))
  · rcases Candidates.mem_keys_collect.mp hid with hold | hnew
    · exact .inl hold
    · refine .inr ?_
      unfold PathOwners.has
      rw [decide_eq_true (hsubset hnew), Bool.or_true]

theorem surveys_of_collectStep {step : ForInStep Candidates}
    (h : visitAll (suggester.collectStep path) candidates levels = .ok step) :
    ∃ final seen, step = .yield final ∧
      Engine.Surveys engine other candidates.ignoresGlobal levels seen final.ignoresGlobal ∧
      ∀ id ∈ final.distances.keys,
        id ∈ candidates.distances.keys ∨ ∃ owners ∈ seen, owners.has id = true := by
  induction levels generalizing candidates with
  | nil =>
      cases h
      exact ⟨candidates, [], rfl, .nil, fun id hid => .inl hid⟩
  | cons level rest ih =>
      rcases visitAll_cons_eq_ok h with ⟨last, hlevel, rfl⟩ | ⟨next, hlevel, hrest⟩
      · rcases sees_of_collectStep hdirectory hpath hlevel with ⟨_, _, heq, _⟩
        cases heq
      · rcases sees_of_collectStep hdirectory hpath hlevel with ⟨_, owners, heq, hsees, hkeys⟩
        cases heq
        rcases ih hrest with ⟨final, seen, rfl, hseen, hothers⟩
        refine ⟨final, owners :: seen, rfl, .cons hsees hseen, fun id hid => ?_⟩
        rcases hothers id hid with hearlier | ⟨found, hfound, hhas⟩
        · rcases hkeys id hearlier with hold | hhas
          · exact .inl hold
          · exact .inr ⟨owners, List.mem_cons_self, hhas⟩
        · exact .inr ⟨found, List.mem_cons_of_mem owners hfound, hhas⟩

omit hpath in
theorem globals_of_collect {context : StatusContext} {emails : List String}
    (hglobal : context.globalOwners = emails.map fun email => { email })
    (hemails : ¬ emails.isEmpty = true)
    (hid : id ∈ (suggester.resolver.resolve (emails.map fun email => { email })).accounts) :
    ∃ owners ∈ engine.globals context false, owners.has id = true := by
  have hresolved := Resolver.accounts_resolve_subset engine.resolver hdirectory (fun _ => rfl) _ hid
  rw [← hglobal] at hresolved
  refine ⟨engine.resolver.resolve context.globalOwners, ?_, ?_⟩
  · unfold Engine.globals
    rw [hglobal, List.isEmpty_map, Bool.false_or, if_neg hemails]
    exact List.mem_singleton_self _
  · unfold PathOwners.has
    rw [decide_eq_true hresolved, Bool.or_true]

theorem owner_of_candidate {context : StatusContext} {place : Place} {greatest : Nat}
    (hsite : suggester.site = engine.site) (hplace : place.path = path)
    (hglobal : context.globalOwners =
      (engine.site.configs.get place.project).globalOwners.map fun email => { email })
    (hrun : (suggester.candidates place greatest).run s = (.ok candidates, s'))
    (hid : id ∈ candidates.distances.keys) :
    s.LeadsTo engine.site.tree s' ∧ ∃ levels seen ignores,
      Shows engine.site place s levels true s' ∧
      Engine.Surveys engine other false levels seen ignores ∧
      ∃ owners ∈ seen ++ engine.globals context ignores, owners.has id = true := by
  unfold Suggester.candidates at hrun
  rw [hsite, hplace] at hrun
  rcases run_bind_eq_ok.mp hrun with ⟨collected, t, hvisit, hrest⟩
  rcases shows_of_run (suggester.visitLevel_eq path) hvisit with ⟨levels, complete, hshows, hall⟩
  rcases surveys_of_collectStep hdirectory hpath hall with ⟨final, seen, hstep, hseen, hkeys⟩
  cases complete with
  | false => cases hstep
  | true =>
      cases hstep
      have hleads : s.LeadsTo engine.site.tree t :=
        (loads_visitLevels (suggester.loads_visitLevel path) place _).leadsTo hvisit
      have hlevels : ∀ id ∈ collected.distances.keys, ∃ owners ∈ seen, owners.has id = true :=
        fun id hid => (hkeys id hid).resolve_left List.not_mem_nil
      dsimp only at hrest
      split at hrest
      · cases hrest
        rcases hlevels id hid with ⟨owners, howners, hhas⟩
        exact ⟨hleads, levels, seen, _, hshows, hseen, owners,
          List.mem_append_left _ howners, hhas⟩
      · rename_i hasked
        cases hrest
        rw [Bool.or_eq_true, not_or, Bool.not_eq_true] at hasked
        rw [hasked.1] at hseen
        refine ⟨hleads, levels, seen, false, hshows, hseen, ?_⟩
        rcases Candidates.mem_keys_collect.mp hid with hlevel | hlast
        · rcases hlevels id hlevel with ⟨owners, howners, hhas⟩
          exact ⟨owners, List.mem_append_left _ howners, hhas⟩
        · rcases globals_of_collect hdirectory hglobal hasked.2 hlast with
            ⟨owners, howners, hhas⟩
          exact ⟨owners, List.mem_append_right seen howners, hhas⟩

end Suggester

/-!
# Approval by a suggested owner
-/

/-- The change with one more approval, which is just what is required. -/
def Change.withVote (change : Change) (required : RequiredApproval) (id : Int) : Change :=
  { change with approvals :=
      change.approvals ++ [{ accountId := id, label := required.label, value := required.value }] }

namespace Engine

variable {engine : Engine} {change : Change} {required : RequiredApproval}
  {override : Option RequiredApproval} {revision : String} {found : Bool}

theorem mem_approversOf_withVote (change : Change) (required : RequiredApproval) (id : Int) :
    id ∈ approversOf required (change.withVote required id).approvals := by
  refine mem_approversOf.mpr ⟨_, List.mem_append_right _ List.mem_cons_self, ?_, rfl⟩
  unfold RequiredApproval.isMetBy
  simp

theorem stateOf_eq (overridden : Bool)
    (hhead : engine.site.tree.branchHead change.project change.branch = .ok (some revision))
    (hfound : engine.site.containsAnyConfig change.project change.branch = .ok found) :
    engine.stateOf change overridden =
      .ok (if overridden = true then none else some (revision, !found)) := by
  unfold stateOf branchState
  rw [hhead]
  change (if overridden = true then _ else
    some <$> (engine.site.containsAnyConfig change.project change.branch >>= _)) = _
  rw [hfound]
  split <;> rfl

theorem context_of_found (hrequired : (engine.config change.project).required = .ok required)
    (hoverride : (engine.config change.project).override? = .ok override)
    (hhead : engine.site.tree.branchHead change.project change.branch = .ok (some revision))
    (hfound : engine.site.containsAnyConfig change.project change.branch = .ok found) :
    engine.context change = .ok (engine.contextOf change required override
      (if overrides override change.approvals = true then none else some (revision, !found))) :=
  context_eq_ok.mpr ⟨required, override, _, hrequired, hoverride, stateOf_eq _ hhead hfound, rfl⟩

/-- The status of a path is approved by any voter among the owners that a complete climb shows. -/
theorem approved_of_shown {context : StatusContext} {path : String} {id : Int} {s s' : Session}
    {levels : List Level} {seen : List PathOwners} {ignores : Bool}
    (hcontext : context = engine.contextOf change required override
      (if overrides override change.approvals = true then none else some (revision, !found)))
    (hreview : context.VotersReview) (hvoter : id ∈ context.approvers)
    (hstate : found = true ∨ engine.permissions.isProjectOwner change.project id = true)
    (hshows : Shows engine.site
      { project := change.project, branch := change.branch, revision, path } s levels true s')
    (hseen : Surveys engine path false levels seen ignores)
    (howner : ∃ owners ∈ seen ++ engine.globals context ignores, owners.has id = true) :
    ∃ status t, (engine.pathStatus context path).run s = (.ok status, t) ∧ t ≤ s' ∧
      status.status = .approved := by
  unfold pathStatus
  cases hover : overrides override change.approvals with
  | true =>
      have hoverridden : context.hasOverride = true := by
        rw [hcontext]
        exact hover
      rw [hoverridden, if_pos rfl]
      exact ⟨_, s, rfl, hshows.keeps, rfl⟩
  | false =>
      rw [hover, if_neg Bool.false_ne_true] at hcontext
      have hnot : context.hasOverride = false := by
        rw [hcontext]
        exact hover
      rw [hnot, if_neg Bool.false_ne_true]
      cases found with
      | false =>
          have hboot : context.bootstrapping = true := by rw [hcontext]; rfl
          rw [hboot, if_pos rfl]
          refine ⟨_, s, rfl, hshows.keeps, approved_of_bootstrap hvoter ?_⟩
          unfold isProjectOwner
          rw [hcontext]
          exact hstate.resolve_left Bool.false_ne_true
      | true =>
          have hboot : context.bootstrapping = false := by rw [hcontext]; rfl
          have hrevision : context.revision = some revision := by rw [hcontext]; rfl
          rw [hboot, if_neg Bool.false_ne_true]
          have hplace : context.project = change.project ∧ context.branch = change.branch := by
            rw [hcontext]
            exact ⟨rfl, rfl⟩
          rw [← hplace.1, ← hplace.2] at hshows
          exact approved_of_surveys hreview hrevision hshows hseen (.inr hvoter) howner

end Engine

namespace Suggester

variable {suggester : Suggester} {engine : Engine} {change : Change} {normal : String} {limit : Int}
  {required : RequiredApproval} {override : Option RequiredApproval} {found : Bool}
  {result : SuggestionResult} {owner : SuggestedOwner}

/-- A suggested owner of a path can approve it.  Where the branch has no configuration yet, only the
owners of its project can. -/
theorem suggested_owner_approves
    (hsite : suggester.site = engine.site) (hdirectory : suggester.directory = engine.directory)
    (hrequired : (engine.config change.project).required = .ok required)
    (hoverride : (engine.config change.project).override? = .ok override)
    (hfound : engine.site.containsAnyConfig change.project change.branch = .ok found)
    (hpath : Path.normalize path = .ok normal) (hnormal : Path.normalize normal = .ok normal)
    (hrun : (suggester.suggestForChange change path limit).run s = (.ok result, s'))
    (howner : owner ∈ result.owners)
    (hstate : found = true ∨
      engine.permissions.isProjectOwner change.project owner.accountId = true) :
    ∃ context, engine.context (change.withVote required owner.accountId) = .ok context ∧
      ∀ t t' outcome, (engine.pathStatus context path).run t = (outcome, t') →
        t = s ∨ Session.OneHistory engine.site.tree s s' t t' →
        ∃ status, outcome = .ok status ∧ status.status = .approved := by
  rcases suggest_of_suggestForChange hrun with ⟨revision, request, hhead, hsuggest⟩
  rcases candidate_of_suggest hsuggest howner with
    ⟨found', greatest, candidates, hpath', hcandidates, hid⟩
  rw [hpath] at hpath'
  cases hpath'
  rw [hsite] at hhead
  let voted := change.withVote required owner.accountId
  have hcontext : engine.context voted = .ok _ :=
    Engine.context_of_found hrequired hoverride hhead hfound
  generalize heq : engine.contextOf voted required override _ = context at hcontext
  have hglobal : context.globalOwners =
      (engine.site.configs.get change.project).globalOwners.map fun email => { email } := by
    rw [← heq]
    rfl
  have hvoter : owner.accountId ∈ context.approvers := by
    rw [← heq]
    exact Engine.mem_approversOf_withVote change required owner.accountId
  rcases owner_of_candidate hdirectory (hnormal.trans hpath.symm) hsite rfl hglobal hcandidates hid
    with ⟨hleads, levels, seen, ignores, ⟨climb, hprepare, hclimbs⟩, hseen, howns⟩
  have hprepare' : prepare engine.site
      { project := change.project, branch := change.branch, revision, path } = .ok climb :=
    (prepare_congr (hpath.trans hnormal.symm) engine.site _ _ revision).trans hprepare
  rcases Engine.approved_of_shown heq.symm (Engine.context_votersReview hcontext) hvoter hstate
    ⟨climb, hprepare', hclimbs⟩ hseen howns with ⟨status, u, hstatus, hle, happroved⟩
  refine ⟨context, hcontext, fun t t' outcome hrunStatus hsession => ⟨status, ?_, happroved⟩⟩
  rcases hsession with rfl | hhistory
  · rw [hstatus] at hrunStatus
    exact (congrArg Prod.fst hrunStatus).symm
  · have hloads := engine.loads_pathStatus context path
    exact hloads.outcome_of_recalls (hloads.recalls hstatus hle) hleads hrunStatus hhistory

/-!
# A village with shy owners

Nobody sees Ann and Eve, so only Bob is suggested for the documents of the village.
-/

def shyVillage : Suggester where
  site := Engine.village.site
  directory := Engine.village.directory
  visibility := { hidden := ⟨[(none, [1, 3])]⟩ }

def mapChange : Change := { Engine.villageChange with approvals := [] }

def codeReview : RequiredApproval where
  label := "Code-Review"
  value := 1

theorem shyVillage_bob_approves :
    ∃ result s' owner context status,
      (shyVillage.suggestForChange mapChange "/doc/map" 10).run {} = (.ok result, s') ∧
      owner ∈ result.owners ∧ owner.accountId = 2 ∧
      Engine.village.context (mapChange.withVote codeReview 2) = .ok context ∧
      ((Engine.village.pathStatus context "/doc/map").run {}).1 = .ok status ∧
      status.status = .approved := by
  have hrequired : (Engine.village.config mapChange.project).required.toOption =
      some codeReview := by decide +kernel
  have hoverride : (Engine.village.config mapChange.project).override?.toOption = some none := by
    decide +kernel
  have hfound : (Engine.village.site.containsAnyConfig mapChange.project
      mapChange.branch).toOption = some true := by decide +kernel
  have hpath : (Path.normalize "/doc/map").toOption = some "/doc/map" := by decide +kernel
  have hsuggested : ((shyVillage.suggestForChange mapChange "/doc/map" 10).run {}).1.toOption.map
      (fun result => result.owners.map SuggestedOwner.accountId) = some [2] := by decide +kernel
  rcases Option.map_eq_some_iff.mp hsuggested with ⟨result, hresult, hids⟩
  have hbob : 2 ∈ result.owners.map SuggestedOwner.accountId := by
    rw [hids]
    exact List.mem_cons_self
  rcases List.mem_map.mp hbob with ⟨owner, howner, hid⟩
  have hrun := run_of_toOption hresult
  have hnormal := eq_ok_of_toOption hpath
  have hsite : shyVillage.site = Engine.village.site := rfl
  rcases suggested_owner_approves hsite rfl (eq_ok_of_toOption hrequired)
    (eq_ok_of_toOption hoverride) (eq_ok_of_toOption hfound) hnormal hnormal hrun howner (.inl rfl)
    with ⟨context, hcontext, hstatuses⟩
  rw [hid] at hcontext
  rcases hstatuses {} _ _ rfl (.inl rfl) with ⟨status, hstatus, happroved⟩
  exact ⟨result, _, owner, context, status, hrun, howner, hid, hcontext, hstatus, happroved⟩

/-!
# A hamlet without configurations

Nothing in the hamlet says who owns it.  Its global owner is suggested all the same, but as long as
there is no configuration only the owners of the project can approve.

The inn next to it has a configuration, but a path of it that still changes when it is normalized
again: suggesting and evaluating then match two different paths with the names of the configuration.
-/

def hamletCommit : Except PathError (String × History) :=
  History.commit {} "hamlet" "main" ⟨[("/README", some "hello\n".toUTF8.toList)]⟩

def emptyInn : History := (hamletCommit.toOption.map Prod.snd).getD {}

def innCommit : Except PathError (String × History) :=
  History.commit emptyInn "inn" "main" ⟨[
    ("/OWNERS", some "per-file a?=set noparent\nper-file a?=bob@inn\n".toUTF8.toList)]⟩

def hamlet : Engine where
  site := {
    tree := ((innCommit.toOption.map Prod.snd).getD emptyInn).tree
    configs := (({} : ProjectConfigs).put "hamlet" { globalOwners := ["eve@hamlet"] }).put "inn"
      { globalOwners := ["eve@hamlet"] } }
  directory := Directory.ofList [{ id := 3, emails := ["eve@hamlet"] }]
  changedFiles project _ _ :=
    .ok [{ newPath := some (if project = "inn" then "/a / " else "/README"), kind := .modified }]

def hamletSuggester : Suggester where
  site := hamlet.site
  directory := hamlet.directory

def hamletChange : Change where
  project := "hamlet"
  branch := "main"
  number := 1
  owner := 9
  uploader := 9
  currentRevision := "new"

def innChange : Change := { hamletChange with project := "inn" }

def suggestedFor (change : Change) (path : String) : Option (List Int) :=
  ((hamletSuggester.suggestForChange change path 10).run {}).1.toOption.map
    fun result => result.owners.map SuggestedOwner.accountId

def statusFor (change : Change) (path : String) : Option (Option OwnerStatus) :=
  (hamlet.context (change.withVote codeReview 3)).toOption.map fun context =>
    ((hamlet.pathStatus context path).run {}).1.toOption.map PathStatus.status

theorem hamlet_suggests_who_cannot_approve :
    (∀ project ∈ ["hamlet", "inn"],
        (hamlet.config project).required.toOption = some codeReview) ∧
      suggestedFor hamletChange "/README" = some [3] ∧
      statusFor hamletChange "/README" = some (some .insufficientReviewers) ∧
      suggestedFor innChange "/a / " = some [3] ∧
      statusFor innChange "/a / " = some (some .insufficientReviewers) := by
  refine ⟨?_, ?_, ?_, ?_, ?_⟩ <;> decide +kernel

end Suggester
end Ownership
