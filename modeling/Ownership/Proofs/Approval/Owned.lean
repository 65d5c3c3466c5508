import Ownership.Proofs.Approval.Submittable

/-!
# Ownership without votes

Who owns the paths of a change is asked without its votes.  The one thing that still comes from them
is the context: with an override it is made without a look at the branch, so that nobody notices
that the branch has no configuration.  The owners of the project then no longer stand in for the
code owners.  Apart from this case all votes give the same owned paths.
-/

namespace Ownership

open Walk

/-- The changes are the same up to their reviewers and approvals. -/
def Change.SameUpToVotes (first second : Change) : Prop :=
  second = { first with approvals := second.approvals, reviewers := second.reviewers }

namespace Engine

variable {engine : Engine} {first second change : Change} {context other : StatusContext}
  {s s' t t' : Session}

/-!
# What a context says about owners
-/

/-- The contexts agree on all that the search for owners takes from them. -/
structure AsksAlike (engine : Engine) (context other : StatusContext) : Prop where
  project : other.project = context.project
  branch : other.branch = context.branch
  globalOwners : other.globalOwners = context.globalOwners
  bootstrapping : other.bootstrapping = context.bootstrapping
  revision : engine.ownerRevision other = engine.ownerRevision context

theorem AsksAlike.isOwner (h : engine.AsksAlike context other) (path : String) (id : Int) :
    engine.isOwner other path id = engine.isOwner context path id := by
  unfold Engine.isOwner isProjectOwner
  rw [h.bootstrapping, h.revision, h.globalOwners, h.project, h.branch]

theorem AsksAlike.ownedAmong (h : engine.AsksAlike context other) (id : Int)
    (paths : List String) : engine.ownedAmong other id paths = engine.ownedAmong context id paths := by
  induction paths with
  | nil => rfl
  | cons path rest ih =>
      show (engine.isOwner other path id >>= _) = (engine.isOwner context path id >>= _)
      rw [h.isOwner, ih]

/-!
# The branch of a change
-/

theorem branchState_eq_ok {project branch revision : String} {bootstrapping : Bool} :
    engine.branchState project branch = .ok (revision, bootstrapping) ↔
      engine.site.tree.branchHead project branch = .ok (some revision) ∧
        engine.site.containsAnyConfig project branch = .ok (!bootstrapping) := by
  constructor
  · intro h
    rcases except_bind_eq_ok.mp h with ⟨head, hhead, hrest⟩
    cases head with
    | none => cases hrest
    | some revision =>
        rcases except_bind_eq_ok.mp hrest with ⟨found, hfound, heq⟩
        cases heq
        rw [Bool.not_not]
        exact ⟨hhead, hfound⟩
  · intro h
    refine except_bind_eq_ok.mpr ⟨some revision, h.1, ?_⟩
    refine except_bind_eq_ok.mpr ⟨!bootstrapping, h.2, ?_⟩
    rw [Bool.not_not]
    rfl

theorem stateOf_cases {overridden : Bool} {state : Option (String × Bool)}
    (h : engine.stateOf change overridden = .ok state) :
    (overridden = true ∧ state = none) ∨
      ∃ revision bootstrapping, overridden = false ∧ state = some (revision, bootstrapping) ∧
        engine.site.tree.branchHead change.project change.branch = .ok (some revision) ∧
        engine.site.containsAnyConfig change.project change.branch = .ok (!bootstrapping) := by
  unfold stateOf at h
  cases overridden with
  | true =>
      rw [if_pos rfl] at h
      cases h
      exact .inl ⟨rfl, rfl⟩
  | false =>
      rw [if_neg Bool.false_ne_true] at h
      cases hbranch : engine.branchState change.project change.branch with
      | error failure =>
          rw [hbranch] at h
          cases h
      | ok found =>
          rw [hbranch] at h
          cases h
          exact .inr ⟨found.1, found.2, rfl, rfl, branchState_eq_ok.mp hbranch⟩

theorem ownerRevision_of_context (h : engine.context change = .ok context) :
    engine.ownerRevision context =
      engine.ownerRevision { context with
        project := change.project, branch := change.branch, revision := none } := by
  rcases context_eq_ok.mp h with ⟨required, override, state, _, _, hstate, rfl⟩
  rcases stateOf_cases hstate with ⟨_, rfl⟩ | ⟨revision, bootstrapping, _, rfl, hhead, _⟩
  · rfl
  · unfold ownerRevision contextOf
    dsimp only [Option.map_some]
    rw [hhead]
    rfl

/-- The owners of the project stand in where the branch was looked at and nothing was found. -/
theorem context_bootstrapping_iff (h : engine.context change = .ok context) :
    context.bootstrapping = true ↔ context.hasOverride = false ∧
      engine.site.containsAnyConfig change.project change.branch = .ok false := by
  rcases context_eq_ok.mp h with ⟨required, override, state, _, _, hstate, rfl⟩
  show state.any Prod.snd = true ↔ overrides override change.approvals = false ∧ _
  rcases stateOf_cases hstate with ⟨hover, rfl⟩ | ⟨revision, bootstrapping, hover, rfl, _, hfound⟩
  · rw [hover]
    simp
  · rw [hover, hfound]
    cases bootstrapping <;> simp

/-- Whether the votes of two changes come to contexts that ask for owners alike: both or neither have
an override, or it is not for want of a configuration that they differ. -/
theorem context_asksAlike (hrest : first.SameUpToVotes second)
    (hmode : (engine.HasOverride first ↔ engine.HasOverride second) ∨
      engine.site.containsAnyConfig first.project first.branch ≠ .ok false)
    (hfirst : engine.context first = .ok context) (hsecond : engine.context second = .ok other) :
    engine.AsksAlike context other := by
  have hproject : second.project = first.project := by rw [hrest]
  have hbranch : second.branch = first.branch := by rw [hrest]
  have hboot : other.bootstrapping = context.bootstrapping := by
    rw [Bool.eq_iff_iff, context_bootstrapping_iff hfirst, context_bootstrapping_iff hsecond,
      hproject, hbranch]
    rcases hmode with hvotes | hfound
    · rw [← context_hasOverride_iff hfirst, ← context_hasOverride_iff hsecond,
        ← Bool.eq_iff_iff] at hvotes
      rw [hvotes]
    · exact iff_of_false (fun h => hfound h.2) fun h => hfound h.2
  have hrevision := ownerRevision_of_context hfirst
  have hrevision' := ownerRevision_of_context hsecond
  rw [hproject, hbranch] at hrevision'
  refine ⟨?_, ?_, ?_, hboot, hrevision'.trans hrevision.symm⟩
  all_goals
    rcases context_eq_ok.mp hfirst with ⟨_, _, _, _, _, _, rfl⟩
    rcases context_eq_ok.mp hsecond with ⟨_, _, _, _, _, _, rfl⟩
  · exact hproject
  · exact hbranch
  · show List.map _ (engine.config second.project).globalOwners =
      List.map _ (engine.config first.project).globalOwners
    rw [hproject]

/-!
# Owned paths under other votes
-/

theorem ownedPaths_sameUpToVotes {evaluation evaluation' : Option (StatusContext × List ChangedFile)}
    (hrest : first.SameUpToVotes second)
    (hmode : (engine.HasOverride first ↔ engine.HasOverride second) ∨
      engine.site.containsAnyConfig first.project first.branch ≠ .ok false)
    (hfirst : engine.evaluation? first = .ok evaluation)
    (hsecond : engine.evaluation? second = .ok evaluation') (id start : Int)
    (limit : Option Int) :
    engine.ownedPaths second id start limit = engine.ownedPaths first id start limit := by
  have hdisabled : (engine.config second.project).isDisabled second.branch =
      (engine.config first.project).isDisabled first.branch := by rw [hrest]
  cases evaluation with
  | none =>
      have hnone : engine.evaluation? second = .ok none :=
        evaluation?_eq_none.mpr (hdisabled.trans (evaluation?_eq_none.mp hfirst))
      unfold ownedPaths
      rw [hfirst, hnone]
  | some evaluation =>
      rcases evaluation with ⟨context, files⟩
      rcases evaluation?_eq_some.mp hfirst with ⟨henabled, hcontext, hfiles⟩
      cases evaluation' with
      | none =>
          rw [evaluation?_eq_none, hdisabled, henabled] at hsecond
          cases hsecond
      | some evaluation' =>
          rcases evaluation' with ⟨context', files'⟩
          rcases evaluation?_eq_some.mp hsecond with ⟨_, hcontext', hfiles'⟩
          have hsame : files' = files := by
            rw [hrest] at hfiles'
            exact Except.ok.inj (hfiles'.symm.trans hfiles)
          rw [ownedPaths_eq_of_some hfirst, ownedPaths_eq_of_some hsecond, hsame,
            (context_asksAlike hrest hmode hcontext hcontext').ownedAmong]

theorem evaluation?_of_ownedPaths {id start : Int} {limit : Option Int} {owned : List String}
    (hrun : (engine.ownedPaths change id start limit).run s = (.ok owned, s')) :
    ∃ evaluation, engine.evaluation? change = .ok evaluation := by
  rcases run_bind_eq_ok.mp hrun with ⟨evaluation, _, hevaluation, _⟩
  exact ⟨evaluation, (run_liftExcept_eq_ok hevaluation).1⟩

/-- The owned paths of a change are the same under all votes, as long as these do not bring an
override to a branch that has no configuration.  Both lists may be asked for in the same session, or
one after the other in one history. -/
theorem ownedPaths_under_other_votes {id start : Int} {limit : Option Int}
    {owned owned' : List String} (hrest : first.SameUpToVotes second)
    (hmode : (engine.HasOverride first ↔ engine.HasOverride second) ∨
      engine.site.containsAnyConfig first.project first.branch ≠ .ok false)
    (hrun : (engine.ownedPaths first id start limit).run s = (.ok owned, s'))
    (hrun' : (engine.ownedPaths second id start limit).run t = (.ok owned', t'))
    (hhistory : t = s ∨ Session.OneHistory engine.site.tree s s' t t') : owned' = owned := by
  rcases evaluation?_of_ownedPaths hrun with ⟨evaluation, hfirst⟩
  rcases evaluation?_of_ownedPaths hrun' with ⟨evaluation', hsecond⟩
  rw [ownedPaths_sameUpToVotes hrest hmode hfirst hsecond] at hrun'
  have hloads := engine.loads_ownedPaths first id start limit
  rcases hhistory with rfl | hhistory
  · rw [hrun] at hrun'
    cases hrun'
    rfl
  · have hsame := hloads.outcome_of_recalls (hloads.recalls hrun le_rfl) (hloads.leadsTo hrun)
      hrun' hhistory
    exact Except.ok.inj hsame

/-!
# Two camps

Whoever has the last word in a camp gives an override.  Ann owns both camps.  In the winter camp she
also owns the paths; the summer camp has no configuration.
-/

def camp : Engine where
  site := {
    tree := {
      branchHead _ _ := .ok (some "tip")
      containsRevision _ _ _ := .ok true
      contentOf project _ path := .ok (
        if project = "winter" ∧ path = "/OWNERS" then some "ann@camp\n".toUTF8.toList else none)
      listFiles project _ := .ok [if project = "winter" then "/OWNERS" else "/tent"] }
    configs := (({} : ProjectConfigs).put "winter" { overrideApproval := some "Last-Word+1" }).put
      "summer" { overrideApproval := some "Last-Word+1" } }
  directory := Directory.ofList [{ id := 1, emails := ["ann@camp"] }]
  permissions := ⟨⟨[("winter", [1]), ("summer", [1])]⟩⟩
  changedFiles _ _ _ := .ok [{ newPath := some "/tent", kind := .modified }]

def campChange (project : String) : Change where
  project := project
  branch := "main"
  number := 1
  owner := 9
  uploader := 9
  currentRevision := "new"

def settledChange (project : String) : Change :=
  { campChange project with
    approvals := [{ accountId := 9, label := "Last-Word", value := 1 }], reviewers := [3] }

def campContext (project : String) : StatusContext where
  project := project
  branch := "main"
  revision := some "tip"
  uploader := 9
  reviewers := []
  approvers := []
  hasOverride := false
  bootstrapping := decide (project = "summer")

def settledContext (project : String) : StatusContext :=
  { campContext project with
    revision := none, reviewers := [3], hasOverride := true, bootstrapping := false }

theorem camp_ownedPaths {change : Change} {context : StatusContext}
    (henabled : (camp.config change.project).isDisabled change.branch = false)
    (hcontext : (camp.context change).toOption = some context) :
    camp.ownedPaths change 1 0 none = camp.ownedAmong context 1 ["/tent"] := by
  have hevaluation : camp.evaluation? change =
      .ok (some (context, [{ newPath := some "/tent", kind := .modified }])) :=
    evaluation?_eq_some.mpr ⟨henabled, eq_ok_of_toOption hcontext, rfl⟩
  exact ownedPaths_eq_ownedAmong hevaluation (Text.sortedDistinct_singleton "/tent") 1

/-- In the winter camp an override changes nothing. -/
theorem winter_ownedPaths : ∃ owned owned' s t,
    (camp.ownedPaths (campChange "winter") 1 0 none).run {} = (.ok owned, s) ∧
      (camp.ownedPaths (settledChange "winter") 1 0 none).run s = (.ok owned', t) ∧
      ¬ camp.HasOverride (campChange "winter") ∧ camp.HasOverride (settledChange "winter") ∧
      owned = ["/tent"] ∧ owned' = owned := by
  have hcontext : (camp.context (campChange "winter")).toOption = some (campContext "winter") := by
    decide +kernel
  have hsettled : (camp.context (settledChange "winter")).toOption =
      some (settledContext "winter") := by decide +kernel
  have hrest : (campChange "winter").SameUpToVotes (settledChange "winter") := rfl
  have hfound : camp.site.containsAnyConfig "winter" "main" ≠ .ok false := by
    have hsome : (camp.site.containsAnyConfig "winter" "main").toOption = some true := by
      decide +kernel
    rw [eq_ok_of_toOption hsome]
    simp
  have howned : ((camp.ownedPaths (campChange "winter") 1 0 none).run {}).1.toOption =
      some ["/tent"] := by
    rw [camp_ownedPaths (by decide) hcontext]
    decide +kernel
  have hagain : ((camp.ownedPaths (settledChange "winter") 1 0 none).run
      ((camp.ownedPaths (campChange "winter") 1 0 none).run {}).2).1.toOption = some ["/tent"] := by
    rw [camp_ownedPaths (by decide) hcontext, camp_ownedPaths (by decide) hsettled]
    decide +kernel
  have hfirst := run_of_toOption howned
  have hsecond := run_of_toOption hagain
  have hleads := (camp.loads_ownedPaths (campChange "winter") 1 0 none).leadsTo hfirst
  have hleads' := (camp.loads_ownedPaths (settledChange "winter") 1 0 none).leadsTo hsecond
  refine ⟨_, _, _, _, hfirst, hsecond, ?_, ?_, rfl,
    ownedPaths_under_other_votes hrest (.inr hfound) hfirst hsecond
      (.inr (hleads.oneHistory (.refl _ _) hleads'))⟩
  · rw [← context_hasOverride_iff (eq_ok_of_toOption hcontext)]
    exact Bool.false_ne_true
  · rw [← context_hasOverride_iff (eq_ok_of_toOption hsettled)]
    rfl

/-- In the summer camp it takes all paths from Ann. -/
theorem summer_override_takes_paths :
    (campChange "summer").SameUpToVotes (settledChange "summer") ∧
      ((camp.ownedPaths (campChange "summer") 1 0 none).run {}).1.toOption = some ["/tent"] ∧
      ((camp.ownedPaths (settledChange "summer") 1 0 none).run {}).1.toOption = some [] := by
  have hcontext : (camp.context (campChange "summer")).toOption = some (campContext "summer") := by
    decide +kernel
  have hsettled : (camp.context (settledChange "summer")).toOption =
      some (settledContext "summer") := by decide +kernel
  refine ⟨rfl, ?_, ?_⟩
  · rw [camp_ownedPaths (by decide) hcontext]
    decide +kernel
  · rw [camp_ownedPaths (by decide) hsettled]
    decide +kernel

end Engine
end Ownership
