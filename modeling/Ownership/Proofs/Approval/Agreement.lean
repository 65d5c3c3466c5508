import Ownership.Proofs.Approval.Evaluation
import Ownership.Proofs.Hierarchy.Sound

/-!
# Evaluations in different sessions

What an evaluation finds does not depend on what was asked for before, as long as no configuration
file has a slash in its name: two faithful sessions give the same statuses and the same owned paths.
-/

namespace Ownership

open Walk

/-!
# Two runs
-/

/-- The sessions of two walks belong to one history, or no configuration file has a slash in its name
and each walk starts with what can be read. -/
def Session.Comparable (site : Site) (s s' t t' : Session) : Prop :=
  Session.OneHistory site.tree s s' t t' ∨
    (site.PlainNames ∧ s.Faithful site ∧ t.Faithful site)

/-- What is recalled of a walk after another one is what this walk comes to in a comparable
session. -/
theorem Session.Comparable.outcome_eq {α β : Type} {site : Site} {s s' t t' : Session}
    (h : s.Comparable site s' t t') {x : Walk α} {y : Walk β} (hx : Loads site.tree x)
    (hy : Loads site.tree y) (hsame : site.PlainNames → Agrees site site Eq x x)
    (hsame' : site.PlainNames → Agrees site site Eq y y) {first : Except Failure α}
    {outcome : Except Failure β} {b : β} (hrun : x.run s = (first, s')) (hrecalls : Recalls y s' b)
    (hagain : y.run t = (outcome, t')) : outcome = .ok b := by
  rcases h with hhistory | ⟨hnames, hs, ht⟩
  · exact hy.outcome_of_recalls hrecalls (hx.leadsTo hrun) hagain hhistory
  · have hs' := (hsame hnames s s hs hs).1
    rw [hrun] at hs'
    exact (hsame' hnames).outcome_of_recalls hs' ht hrecalls hagain

namespace Engine

variable {engine : Engine}

/-!
# Single levels

A level is looked at without the name of its file.
-/

theorem agrees_step {β : Type} (site : Site) (step : Except Failure (ForInStep β)) :
    Agrees site site (Hierarchy.SameStep Eq) (liftExcept step) (liftExcept step) := by
  apply agrees_liftExcept
  apply Alike.refl
  intro step
  cases step with
  | done state => exact .done rfl
  | yield state => exact .yield rfl

theorem agrees_searchLevel (site : Site) (engine : Engine) (path : String) (id : Int)
    (search : Search) {level level' : Hierarchy.Level} (hsame : level.unnamed = level'.unnamed) :
    Agrees site site (Hierarchy.SameStep Eq) (engine.searchLevel path id search level)
      (engine.searchLevel path id search level') := by
  have hunnamed : ∀ level : Hierarchy.Level,
      engine.searchLevel path id search level = engine.searchLevel path id search level.unnamed :=
    fun _ => rfl
  rw [hunnamed level, hunnamed level', hsame, searchLevel_eq]
  exact agrees_step site _

theorem agrees_visitLevel (site : Site) (engine : Engine) (context : StatusContext) (path : String)
    (progress : Progress) {level level' : Hierarchy.Level} (hsame : level.unnamed = level'.unnamed) :
    Agrees site site (Hierarchy.SameStep Eq) (engine.visitLevel context path progress level)
      (engine.visitLevel context path progress level') := by
  have hunnamed : ∀ level : Hierarchy.Level, engine.visitLevel context path progress level =
      engine.visitLevel context path progress level.unnamed := fun _ => rfl
  rw [hunnamed level, hunnamed level', hsame, visitLevel_eq]
  exact agrees_step site _

/-!
# Owned paths
-/

section

variable (hnames : engine.site.PlainNames)
include hnames

theorem agrees_isOwner (context : StatusContext) (path : String) (id : Int) :
    Agrees engine.site engine.site Eq (engine.isOwner context path id)
      (engine.isOwner context path id) := by
  unfold isOwner
  split
  · exact agrees_pure rfl
  · apply agrees_lift_bind
    intro revision _
    apply Agrees.bind
    · exact Hierarchy.agrees_visitLevels (.refl engine.site) hnames (R := Eq)
        (fun search other level level' hsearch hsame =>
          hsearch ▸ agrees_searchLevel engine.site engine path id search hsame) _ rfl
    · rintro search _ rfl
      split
      · exact agrees_pure rfl
      · split
        · exact agrees_pure rfl
        · exact agrees_pure rfl

theorem agrees_ownedAmong (context : StatusContext) (id : Int) (paths : List String) :
    Agrees engine.site engine.site Eq (engine.ownedAmong context id paths)
      (engine.ownedAmong context id paths) := by
  induction paths with
  | nil => exact agrees_pure rfl
  | cons path rest ih =>
      apply (agrees_isOwner hnames context path id).bind
      rintro owns _ rfl
      apply ih.bind
      rintro others _ rfl
      exact agrees_pure rfl

theorem agrees_ownedPaths (change : Change) (id start : Int) (limit : Option Int) :
    Agrees engine.site engine.site Eq (engine.ownedPaths change id start limit)
      (engine.ownedPaths change id start limit) := by
  unfold ownedPaths
  apply agrees_lift_bind
  intro evaluation _
  cases evaluation with
  | none => exact agrees_pure rfl
  | some evaluation =>
      apply (agrees_ownedAmong hnames evaluation.1 id _).bind
      rintro owned _ rfl
      exact agrees_pure rfl

/-!
# Statuses
-/

theorem agrees_regularStatus (context : StatusContext) (path : String) :
    Agrees engine.site engine.site Eq (engine.regularStatus context path)
      (engine.regularStatus context path) := by
  unfold regularStatus
  split
  · exact agrees_liftExcept (.failed _)
  · apply Agrees.bind
    · exact Hierarchy.agrees_visitLevels (.refl engine.site) hnames (R := Eq)
        (fun progress other level level' hprogress hsame =>
          hprogress ▸ agrees_visitLevel engine.site engine context path progress hsame) _ rfl
    · rintro progress _ rfl
      exact agrees_pure rfl

theorem agrees_pathStatus (context : StatusContext) (path : String) :
    Agrees engine.site engine.site Eq (engine.pathStatus context path)
      (engine.pathStatus context path) := by
  unfold pathStatus
  split
  · exact agrees_pure rfl
  · split
    · exact agrees_pure rfl
    · exact agrees_regularStatus hnames context path

theorem agrees_statusOf (context : StatusContext) (path : Option String) :
    Agrees engine.site engine.site Eq (engine.statusOf context path)
      (engine.statusOf context path) := by
  cases path with
  | none => exact agrees_pure rfl
  | some path => exact (agrees_pathStatus hnames context path).map fun _ _ => congrArg some

theorem agrees_fileStatus (context : StatusContext) (file : ChangedFile) :
    Agrees engine.site engine.site Eq (engine.fileStatus context file)
      (engine.fileStatus context file) := by
  rw [fileStatus_eq]
  apply (agrees_statusOf hnames context file.newPath).bind
  rintro new _ rfl
  apply (agrees_statusOf hnames context _).bind
  rintro old _ rfl
  exact agrees_pure rfl

theorem agrees_fileStatuses (change : Change) (revision : Option String) :
    Agrees engine.site engine.site Eq (engine.fileStatuses change revision)
      (engine.fileStatuses change revision) := by
  rw [fileStatuses_eq]
  apply agrees_lift_bind
  intro _ _
  apply agrees_lift_bind
  intro evaluation _
  cases evaluation with
  | none => exact agrees_pure rfl
  | some evaluation => exact agrees_mapM (agrees_fileStatus hnames evaluation.1) evaluation.2

theorem agrees_allApproved (context : StatusContext) (files : List ChangedFile) :
    Agrees engine.site engine.site Eq (engine.allApproved context files)
      (engine.allApproved context files) := by
  induction files with
  | nil => exact agrees_pure rfl
  | cons file rest ih =>
      apply (agrees_fileStatus hnames context file).bind
      rintro status _ rfl
      split
      · exact ih
      · exact agrees_pure rfl

theorem agrees_isSubmittable (change : Change) :
    Agrees engine.site engine.site Eq (engine.isSubmittable change)
      (engine.isSubmittable change) := by
  unfold isSubmittable
  apply agrees_lift_bind
  intro evaluation _
  cases evaluation with
  | none => exact agrees_pure rfl
  | some evaluation => exact agrees_allApproved hnames evaluation.1 evaluation.2

end

theorem village_plainNames : village.site.PlainNames := by
  apply Site.SolidNames.plainNames
  apply Site.solidNames_of_builtIn rfl
  intro project
  change ((ProjectConfigs.put {} "village" _).get project).IsBuiltIn
  rw [ProjectConfigs.get_put]
  split
  · exact ⟨default_isBuiltIn.backends, default_isBuiltIn.extension⟩
  · exact default_isBuiltIn

/-!
# A depot

In the annex of the depot configurations are kept in boxes: their files have a slash in their names.
The box at the root is imported twice, once under its path and once as the configuration of the
root folder, and its own import of the crew is relative to the folder that it was first asked for
in.  Eve owns `/c` only if the path came first.
-/

def boxedRegistry : Except RegistryError Registry :=
  Registry.builtIn.register "boxed" { format := .lines, fileName := "box/OWNERS" } []

def depot (files : List ChangedFile) : Engine where
  site := {
    tree := {
      branchHead _ _ := .ok (some "tip")
      containsRevision _ _ _ := .ok true
      contentOf project _ path := .ok (
        if project = "depot" then
          if path = "/b/OWNERS" then some "include annex:main:/box/OWNERS\neve@x\n".toUTF8.toList
          else if path = "/b/d/OWNERS" then some "ann@x\n".toUTF8.toList
          else if path = "/c/OWNERS" then some "include annex:main:/\n".toUTF8.toList
          else none
        else if path = "/box/OWNERS" then some "include crew\n".toUTF8.toList
        else if path = "/box/crew" then some "eve@x\n".toUTF8.toList
        else none)
      listFiles _ _ := .ok ["/b/OWNERS"] }
    configs := ({} : ProjectConfigs).put "annex" { backend := "boxed" }
    registry := boxedRegistry.toOption.getD {} }
  directory := Directory.ofList [{ id := 1, emails := ["ann@x"] }, { id := 5, emails := ["eve@x"] }]
  changedFiles _ _ _ := .ok files

def depotChange : Change where
  project := "depot"
  branch := "main"
  number := 1
  owner := 9
  uploader := 5
  currentRevision := "new"

end Engine
end Ownership
