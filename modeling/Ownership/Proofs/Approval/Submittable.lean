import Ownership.Proofs.Approval.Agreement
import Ownership.Proofs.Text.Sorting

/-!
# Submittable changes and owned paths

Two questions can be asked about a change: whether it can be submitted, and which of its paths an
account owns.  In sessions that can be compared the answers fit together: a change can be submitted
if and only if the voters own all that it touches.
-/

namespace Ownership
namespace Engine

open Walk

variable {engine : Engine} {change : Change} {context : StatusContext} {file : ChangedFile}
  {path : String} {id : Int} {s s' : Session}

/-!
# Owned paths
-/

theorem mem_touchedPaths {files : List ChangedFile} :
    path ∈ Engine.touchedPaths files ↔ ∃ file ∈ files, path ∈ file.touchedPaths := by
  unfold Engine.touchedPaths
  rw [Text.mem_sortedDistinct, List.mem_flatMap]

theorem ownedPaths_eq_of_some {files : List ChangedFile} {id start : Int} {limit : Option Int}
    (h : engine.evaluation? change = .ok (some (context, files))) :
    engine.ownedPaths change id start limit =
      (engine.ownedAmong context id (touchedPaths files) >>= fun owned =>
        pure (Text.slice start (limit.map fun limit => start + limit) owned)) := by
  unfold ownedPaths
  rw [h]
  rfl

theorem ownedPaths_eq_ownedAmong {files : List ChangedFile} {paths : List String}
    (hevaluation : engine.evaluation? change = .ok (some (context, files)))
    (htouched : touchedPaths files = paths) (id : Int) :
    engine.ownedPaths change id 0 none = engine.ownedAmong context id paths := by
  rw [ownedPaths_eq_of_some hevaluation, htouched]
  simp only [Option.map_none, Text.slice_zero_none, bind_pure]

theorem recalls_ownedAmong {paths owned : List String}
    (h : Recalls (engine.ownedAmong context id paths) s owned) :
    path ∈ owned ↔ path ∈ paths ∧ Recalls (engine.isOwner context path id) s true := by
  induction paths generalizing owned with
  | nil =>
      rcases recalls_pure.mp h with rfl
      simp
  | cons first rest ih =>
      rcases (recalls_bind (engine.loads_isOwner context first id) fun owns =>
        (engine.loads_ownedAmong context id rest).bind fun _ => .done _).mp h with
        ⟨owns, hfirst, htail⟩
      rcases (recalls_bind (engine.loads_ownedAmong context id rest) fun _ => .done _).mp htail with
        ⟨others, hothers, hpure⟩
      have hrest := ih hothers
      cases owns with
      | true =>
          rcases recalls_pure.mp hpure with rfl
          rw [if_pos rfl, List.mem_cons, List.mem_cons, hrest]
          constructor
          · intro hcases
            rcases hcases with rfl | ⟨hmem, howns⟩
            · exact ⟨.inl rfl, hfirst⟩
            · exact ⟨.inr hmem, howns⟩
          · intro hboth
            rcases hboth with ⟨rfl | hmem, howns⟩
            · exact .inl rfl
            · exact .inr ⟨hmem, howns⟩
      | false =>
          rcases recalls_pure.mp hpure with rfl
          rw [if_neg Bool.false_ne_true, List.mem_cons, hrest]
          constructor
          · intro hboth
            rcases hboth with ⟨hmem, howns⟩
            exact ⟨.inr hmem, howns⟩
          · intro hboth
            rcases hboth with ⟨rfl | hmem, howns⟩
            · exact absurd hfirst (recalls_not_both howns)
            · exact ⟨hmem, howns⟩

theorem mem_ownedPaths {files : List ChangedFile} {owned : List String}
    (hevaluation : engine.evaluation? change = .ok (some (context, files)))
    (h : Recalls (engine.ownedPaths change id 0 none) s owned) :
    path ∈ owned ↔ (∃ file ∈ files, path ∈ file.touchedPaths) ∧
      Recalls (engine.isOwner context path id) s true := by
  rw [ownedPaths_eq_ownedAmong hevaluation rfl] at h
  rw [recalls_ownedAmong h, mem_touchedPaths]

/-!
# Approved files
-/

theorem approved_iff_owned {status : PathStatus} (hcontext : engine.context change = .ok context)
    (hoverride : context.hasOverride = false)
    (h : Recalls (engine.pathStatus context path) s status) :
    status.status = .approved ↔ ∃ id, (id = change.uploader ∨ engine.Approves change id) ∧
      Recalls (engine.isOwner context path id) s true := by
  have hverdict := verdict_of_recalls (context_votersReview hcontext) hoverride h
  rw [hverdict.approved_iff fun id => recalls_not_both, exists_voter_iff hcontext]

theorem paths_of_fileStatus {status : FileStatus}
    (hrun : (engine.fileStatus context file).run s = (.ok status, s')) :
    path ∈ status.pathStatuses.map PathStatus.path ↔ path ∈ file.touchedPaths := by
  have hrecalls := (engine.loads_fileStatus context file).recalls hrun le_rfl
  rw [(pathStatuses_of_fileStatus hrecalls).1, ChangedFile.mem_statusPaths_iff]

theorem file_approved_iff {status : FileStatus} (hcontext : engine.context change = .ok context)
    (hoverride : context.hasOverride = false)
    (h : Recalls (engine.fileStatus context file) s status) :
    status.isApproved = true ↔ ∀ path ∈ file.touchedPaths,
      ∃ id, (id = change.uploader ∨ engine.Approves change id) ∧
        Recalls (engine.isOwner context path id) s true := by
  rcases pathStatuses_of_fileStatus h with ⟨hpaths, hrecalls⟩
  rw [FileStatus.isApproved_iff]
  constructor
  · intro happroved path htouched
    have hmem : path ∈ status.pathStatuses.map PathStatus.path := by
      rw [hpaths]
      exact ChangedFile.mem_statusPaths_iff.mpr htouched
    rcases List.mem_map.mp hmem with ⟨found, hfound, rfl⟩
    exact (approved_iff_owned hcontext hoverride (hrecalls found hfound)).mp
      (happroved found hfound)
  · intro howned found hfound
    have hmem : found.path ∈ file.statusPaths := by
      rw [← hpaths]
      exact List.mem_map_of_mem hfound
    exact (approved_iff_owned hcontext hoverride (hrecalls found hfound)).mpr
      (howned found.path (ChangedFile.mem_statusPaths_iff.mp hmem))

/-!
# The paths of all voters

They may have been asked for in one history of sessions, or each in a session of its own.
-/

/-- The paths that each voter owns have been asked for, between sessions that are related. -/
def VotersOwn (engine : Engine) (change : Change) (owned : Int → List String)
    (R : Session → Session → Prop) : Prop :=
  ∀ id, (id = change.uploader ∨ engine.Approves change id) →
    ∃ t t', (engine.ownedPaths change id 0 none).run t = (.ok (owned id), t') ∧ R t t'

section

variable {owned : Int → List String} (hnames : engine.site.PlainNames)
  (howned : engine.VotersOwn change owned fun t _ => t.Faithful engine.site)
include hnames howned

theorem exists_last_of_faithful (ids : List Int) (hs : s.Faithful engine.site) :
    ∃ last, s ≤ last ∧ ∀ id ∈ ids, (id = change.uploader ∨ engine.Approves change id) →
      ∃ t t', (engine.ownedPaths change id 0 none).run t = (.ok (owned id), t') ∧ t' ≤ last := by
  induction ids generalizing s with
  | nil => exact ⟨s, le_rfl, by simp⟩
  | cons id rest ih =>
      by_cases hvoter : id = change.uploader ∨ engine.Approves change id
      · rcases howned id hvoter with ⟨t, t', hasked, ht⟩
        rcases hagain : (engine.ownedPaths change id 0 none).run s with ⟨outcome, mid⟩
        have hagrees := agrees_ownedPaths hnames change id 0 none s t hs ht
        rw [hagain, hasked] at hagrees
        rcases hagrees with ⟨hmid, _, halike⟩
        have houtcome : outcome = .ok (owned id) := halike.eq
        rw [houtcome] at hagain
        rcases ih hmid with ⟨last, hle, hothers⟩
        refine ⟨last, le_trans ((engine.loads_ownedPaths change id 0 none).keeps hagain) hle, ?_⟩
        intro other hother
        rcases List.mem_cons.mp hother with rfl | hmem
        · exact fun _ => ⟨s, mid, hagain, hle⟩
        · exact hothers other hmem
      · rcases ih hs with ⟨last, hle, hothers⟩
        refine ⟨last, hle, fun other hother hasks => ?_⟩
        rcases List.mem_cons.mp hother with rfl | hmem
        · exact absurd hasks hvoter
        · exact hothers other hmem hasks

/-- Without slashes in the names of configuration files the voters could have asked in one
session. -/
theorem VotersOwn.exists_last (hs : s.Faithful engine.site) :
    ∃ last, s ≤ last ∧ engine.VotersOwn change owned fun _ t' => t' ≤ last := by
  rcases exists_last_of_faithful hnames howned
    (change.uploader :: change.approvals.map Approval.accountId) hs with ⟨last, hle, hall⟩
  refine ⟨last, hle, fun id hvoter => hall id ?_ hvoter⟩
  rcases hvoter with rfl | ⟨_, _, approval, hmem, _, rfl⟩
  · exact List.mem_cons_self
  · exact List.mem_cons_of_mem _ (List.mem_map_of_mem hmem)

end

/-!
# Submittable changes
-/

theorem allApproved_of_override {files : List ChangedFile} {approved : Bool}
    (hoverride : context.hasOverride = true)
    (h : Recalls (engine.allApproved context files) s approved) : approved = true := by
  have hfound := recalls_allApproved h
  cases approved with
  | true => rfl
  | false =>
      rcases hfound with ⟨file, _, status, hstatus, hopen⟩
      have happroved : status.isApproved = true := by
        rw [FileStatus.isApproved_iff]
        intro path hpath
        exact approved_of_override hoverride ((pathStatuses_of_fileStatus hstatus).2 path hpath)
      rw [happroved] at hopen
      cases hopen

theorem allApproved_iff_owned {files : List ChangedFile} {approved : Bool}
    (hcontext : engine.context change = .ok context) (hoverride : context.hasOverride = false)
    (h : Recalls (engine.allApproved context files) s approved) :
    approved = true ↔ ∀ file ∈ files, ∀ path ∈ file.touchedPaths,
      ∃ id, (id = change.uploader ∨ engine.Approves change id) ∧
        Recalls (engine.isOwner context path id) s true := by
  have hfound := recalls_allApproved h
  cases approved with
  | true =>
      refine ⟨fun _ file hfile => ?_, fun _ => rfl⟩
      rcases hfound file hfile with ⟨status, hstatus, happroved⟩
      exact (file_approved_iff hcontext hoverride hstatus).mp happroved
  | false =>
      rcases hfound with ⟨file, hfile, status, hstatus, hopen⟩
      refine ⟨fun h => absurd h Bool.false_ne_true, fun howned => ?_⟩
      rw [(file_approved_iff hcontext hoverride hstatus).mpr (howned file hfile)] at hopen
      cases hopen

theorem submittable_iff_of_recalls {last : Session} {submittable : Bool}
    {owned : Int → List String} (hsubmittable : Recalls (engine.isSubmittable change) last submittable)
    (howned : engine.VotersOwn change owned fun _ t' => t' ≤ last) :
    submittable = true ↔
      (engine.config change.project).isDisabled change.branch = true ∨
      engine.HasOverride change ∨
      ∃ files, engine.changedFiles change.project change.currentRevision change.baseRevision =
        .ok files ∧ ∀ file ∈ files, ∀ path ∈ file.touchedPaths,
          ∃ id, (id = change.uploader ∨ engine.Approves change id) ∧ path ∈ owned id := by
  rcases recalls_isSubmittable.mp hsubmittable with
    ⟨hevaluation, rfl⟩ | ⟨context, files, hevaluation, hall⟩
  · exact ⟨fun _ => .inl (evaluation?_eq_none.mp hevaluation), fun _ => rfl⟩
  rcases evaluation?_eq_some.mp hevaluation with ⟨henabled, hcontext, hfiles⟩
  cases hoverride : context.hasOverride with
  | true =>
      exact ⟨fun _ => .inr (.inl ((context_hasOverride_iff hcontext).mp hoverride)),
        fun _ => allApproved_of_override hoverride hall⟩
  | false =>
      have hmember : ∀ id, (id = change.uploader ∨ engine.Approves change id) → ∀ path,
          (path ∈ owned id ↔ (∃ file ∈ files, path ∈ file.touchedPaths) ∧
            Recalls (engine.isOwner context path id) last true) := by
        intro id hvoter path
        rcases howned id hvoter with ⟨t, t', hasked, hle⟩
        exact mem_ownedPaths hevaluation
          ((engine.loads_ownedPaths change id 0 none).recalls hasked hle)
      rw [allApproved_iff_owned hcontext hoverride hall]
      constructor
      · intro hevery
        refine .inr (.inr ⟨files, hfiles, fun file hfile path hpath => ?_⟩)
        rcases hevery file hfile path hpath with ⟨id, hvoter, howns⟩
        exact ⟨id, hvoter, (hmember id hvoter path).mpr ⟨⟨file, hfile, hpath⟩, howns⟩⟩
      · intro hcases
        rcases hcases with hdisabled | hover | ⟨files', hfiles', hevery⟩
        · rw [henabled] at hdisabled
          cases hdisabled
        · rw [← context_hasOverride_iff hcontext, hoverride] at hover
          cases hover
        · rw [hfiles] at hfiles'
          cases hfiles'
          intro file hfile path hpath
          rcases hevery file hfile path hpath with ⟨id, hvoter, hmem⟩
          exact ⟨id, hvoter, ((hmember id hvoter path).mp hmem).2⟩

/-- A change can be submitted if ownership is switched off, if there is an override, or if voters own
all that it touches.  One session remembers all that was asked for, or all of it was asked for in
faithful sessions and no configuration file has a slash in its name. -/
theorem isSubmittable_iff_owned {submittable : Bool} {owned : Int → List String}
    (hrun : (engine.isSubmittable change).run s = (.ok submittable, s'))
    (howned :
      (∃ last, s' ≤ last ∧ engine.VotersOwn change owned fun _ t' => t' ≤ last) ∨
      (engine.site.PlainNames ∧ s.Faithful engine.site ∧
        engine.VotersOwn change owned fun t _ => t.Faithful engine.site)) :
    (submittable = true ↔
      (engine.config change.project).isDisabled change.branch = true ∨
      engine.HasOverride change ∨
      ∃ files, engine.changedFiles change.project change.currentRevision change.baseRevision =
        .ok files ∧ ∀ file ∈ files, ∀ path ∈ file.touchedPaths,
          ∃ id, (id = change.uploader ∨ engine.Approves change id) ∧ path ∈ owned id) ∧
    ∀ context file t t' status, file.missingPath? = none →
      (engine.fileStatus context file).run t = (.ok status, t') →
      (∀ path, path ∈ status.pathStatuses.map PathStatus.path ↔ path ∈ file.touchedPaths) ∧
      file.touchedPaths ≠ [] := by
  refine ⟨?_, fun context file t t' status hpaths hstatus =>
    ⟨fun path => paths_of_fileStatus hstatus, ChangedFile.touchedPaths_ne_nil hpaths⟩⟩
  have hlast : ∃ last, s' ≤ last ∧ engine.VotersOwn change owned fun _ t' => t' ≤ last := by
    rcases howned with hone | ⟨hnames, hs, hfaithful⟩
    · exact hone
    · have hs' := (agrees_isSubmittable hnames change s s hs hs).1
      rw [hrun] at hs'
      exact hfaithful.exists_last hnames hs'
  rcases hlast with ⟨last, hle, hvoters⟩
  exact submittable_iff_of_recalls ((engine.loads_isSubmittable change).recalls hrun hle) hvoters

theorem village_approves {id : Int} (h : village.Approves villageChange id) : id = 1 := by
  rcases h with ⟨required, _, approval, hmem, _, rfl⟩
  rw [List.mem_singleton.mp hmem]

theorem village_touchedPaths : Engine.touchedPaths [
    { newPath := some "/doc/map", kind := .modified },
    { newPath := some "/well", kind := .added }] = ["/doc/map", "/well"] := by
  apply List.mergeSort_of_pairwise
  decide +kernel

theorem village_ownedPaths (id : Int) : village.ownedPaths villageChange id 0 none =
    village.ownedAmong villageContext id ["/doc/map", "/well"] :=
  ownedPaths_eq_ownedAmong
    (evaluation?_eq_some.mpr ⟨by decide, village_context, rfl⟩) village_touchedPaths id

/-- In the village Ann approves all paths of the change, and its uploader owns none. -/
theorem village_isSubmittable_iff_owned :
    ∃ submittable, ∃ owned : Int → List String,
      ((village.isSubmittable villageChange).run {}).1.toOption = some submittable ∧
      submittable = true ∧ owned 9 = [] ∧ owned 1 = ["/doc/map", "/well"] ∧
      (submittable = true ↔
        (village.config "village").isDisabled "main" = true ∨ village.HasOverride villageChange ∨
        ∃ files, village.changedFiles "village" "new" none = .ok files ∧
          ∀ file ∈ files, ∀ path ∈ file.touchedPaths,
            ∃ id, (id = villageChange.uploader ∨ village.Approves villageChange id) ∧
              path ∈ owned id) := by
  let owned : Int → List String := fun id => if id = 1 then ["/doc/map", "/well"] else []
  have hstatus : ((village.isSubmittable villageChange).run {}).1.toOption = some true := by
    decide +kernel
  have huploader : ((village.ownedPaths villageChange 9 0 none).run {}).1.toOption = some [] := by
    rw [village_ownedPaths]
    decide +kernel
  have hann : ((village.ownedPaths villageChange 1 0 none).run {}).1.toOption =
      some ["/doc/map", "/well"] := by
    rw [village_ownedPaths]
    decide +kernel
  have hfaithful : ({} : Session).Faithful village.site := Session.faithful_empty _
  refine ⟨true, owned, hstatus, rfl, rfl, rfl, (isSubmittable_iff_owned (run_of_toOption hstatus)
    (.inr ⟨village_plainNames, hfaithful, fun id hvoter => ?_⟩)).1⟩
  rcases hvoter with rfl | happroves
  · exact ⟨_, _, run_of_toOption huploader, hfaithful⟩
  · rcases village_approves happroves with rfl
    exact ⟨_, _, run_of_toOption hann, hfaithful⟩

/-!
# A change that voters own and that cannot be submitted

Whether the change of the depot can be submitted is asked file by file, and the paths of Eve are
looked up in order.
-/

def depotFiles : List ChangedFile := [
  { newPath := some "/c/f", kind := .added }, { newPath := some "/b/d/f", kind := .added }]

def depotContext : StatusContext where
  project := "depot"
  branch := "main"
  revision := some "tip"
  uploader := 5
  reviewers := []
  approvers := []
  hasOverride := false
  bootstrapping := false

theorem depot_context (files : List ChangedFile) :
    (depot files).context depotChange = .ok depotContext := by
  have hcontext : ((depot []).context depotChange).toOption = some depotContext := by
    decide +kernel
  exact eq_ok_of_toOption hcontext

theorem depotFiles_touchedPaths : Engine.touchedPaths depotFiles = ["/b/d/f", "/c/f"] := by
  have hincreasing : ["/b/d/f", "/c/f"].Pairwise (· < ·) := by decide
  apply (Text.pairwise_sortedDistinct _).eq_of_mem_iff hincreasing
  intro path
  rw [Text.mem_sortedDistinct]
  simp [depotFiles, ChangedFile.touchedPaths, or_comm]

/-- Eve, who has uploaded the change, owns all that it touches. -/
theorem depot_owned_not_submittable :
    boxedRegistry.toOption = some (depot depotFiles).site.registry ∧
    (((depot depotFiles).isSubmittable depotChange).run {}).1.toOption = some false ∧
    (((depot depotFiles).ownedPaths depotChange depotChange.uploader 0 none).run {}).1.toOption =
      some ["/b/d/f", "/c/f"] ∧
    ∀ file ∈ depotFiles, ∀ path ∈ file.touchedPaths, path ∈ ["/b/d/f", "/c/f"] := by
  have howned : (depot depotFiles).ownedPaths depotChange depotChange.uploader 0 none =
      (depot depotFiles).ownedAmong depotContext 5 ["/b/d/f", "/c/f"] :=
    ownedPaths_eq_ownedAmong (evaluation?_eq_some.mpr ⟨by decide, depot_context _, rfl⟩)
      depotFiles_touchedPaths 5
  rw [howned]
  refine ⟨by decide +kernel, by decide +kernel, by decide +kernel, by decide⟩

end Engine
end Ownership
