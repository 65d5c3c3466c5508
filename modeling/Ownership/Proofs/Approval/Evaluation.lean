import Ownership.Proofs.Approval.Verdict

/-!
# Evaluated changes

A change is evaluated file by file and path by path.  What a session recalls of the whole is made
up of what it recalls of the paths.
-/

namespace Ownership

open Walk

/-!
# The paths of a file
-/

namespace ChangedFile

variable {file : ChangedFile} {path : String}

/-- The paths that get a status: the new one, and the old one where its owners have a say. -/
def statusPaths (file : ChangedFile) : List String :=
  file.newPath.toList ++ (if file.requiresOldPath then file.oldPath else none).toList

theorem mem_statusPaths_iff : path ∈ file.statusPaths ↔ path ∈ file.touchedPaths := by
  unfold statusPaths touchedPaths
  dsimp only
  rw [List.mem_append, List.mem_append, List.mem_filter]
  split
  · constructor
    · intro hcases
      rcases hcases with hnew | hold
      · exact .inl hnew
      · by_cases hnew : path ∈ file.newPath.toList
        · exact .inl hnew
        · exact .inr ⟨hold, decide_eq_true hnew⟩
    · intro hcases
      rcases hcases with hnew | ⟨hold, _⟩
      · exact .inl hnew
      · exact .inr hold
  · simp

theorem touchedPaths_ne_nil (h : file.missingPath? = none) : file.touchedPaths ≠ [] := by
  have hpath : ∃ path, path ∈ file.statusPaths := by
    unfold statusPaths
    cases hnew : file.newPath with
    | some path => exact ⟨path, by simp⟩
    | none =>
        -- Without a new path the file is deleted, and has an old path.
        have hdeleted : file.kind = .deleted := by
          by_cases hkind : file.kind = .deleted
          · exact hkind
          · unfold missingPath? at h
            split at h
            · cases h
            · rw [hnew] at h
              simp [hkind] at h
        have htakes : file.kind.takesOld = true := by
          rw [hdeleted]
          rfl
        cases hold : file.oldPath with
        | none =>
            unfold missingPath? at h
            rw [htakes, hold] at h
            cases h
        | some path =>
            refine ⟨path, ?_⟩
            unfold requiresOldPath
            rw [htakes]
            simp
  rcases hpath with ⟨path, hmem⟩
  intro hnil
  have htouched := mem_statusPaths_iff.mp hmem
  rw [hnil] at htouched
  cases htouched

end ChangedFile

theorem FileStatus.isApproved_iff {status : FileStatus} :
    status.isApproved = true ↔ ∀ path ∈ status.pathStatuses, path.status = .approved := by
  unfold isApproved
  simp [List.all_eq_true]

structure FileStatus.Pathwise (R : PathStatus → PathStatus → Prop) (first second : FileStatus) :
    Prop where
  file : second.file = first.file
  new : List.Forall₂ R first.new.toList second.new.toList
  old : List.Forall₂ R first.old.toList second.old.toList

namespace Engine

variable {engine : Engine} {change : Change} {context : StatusContext} {file : ChangedFile}
  {path : String} {s s' : Session}

/-!
# What is evaluated
-/

theorem evaluation?_eq (engine : Engine) (change : Change) : engine.evaluation? change =
    if (engine.config change.project).isDisabled change.branch then .ok none
    else engine.context change >>= fun context =>
      engine.changedFiles change.project change.currentRevision change.baseRevision >>=
        fun files => .ok (some (context, files)) := by
  unfold evaluation?
  split <;> rfl

theorem evaluation?_eq_none : engine.evaluation? change = .ok none ↔
    (engine.config change.project).isDisabled change.branch = true := by
  rw [evaluation?_eq]
  split
  · rename_i hdisabled
    exact ⟨fun _ => hdisabled, fun _ => rfl⟩
  · rename_i hdisabled
    constructor
    · intro h
      rcases except_bind_eq_ok.mp h with ⟨context, _, hrest⟩
      rcases except_bind_eq_ok.mp hrest with ⟨files, _, heq⟩
      cases heq
    · intro h
      exact absurd h hdisabled

theorem evaluation?_eq_some {files : List ChangedFile} :
    engine.evaluation? change = .ok (some (context, files)) ↔
      (engine.config change.project).isDisabled change.branch = false ∧
      engine.context change = .ok context ∧
      engine.changedFiles change.project change.currentRevision change.baseRevision =
        .ok files := by
  rw [evaluation?_eq]
  cases (engine.config change.project).isDisabled change.branch with
  | true =>
      rw [if_pos rfl]
      simp
  | false =>
      rw [if_neg Bool.false_ne_true]
      constructor
      · intro h
        rcases except_bind_eq_ok.mp h with ⟨context, hcontext, hrest⟩
        rcases except_bind_eq_ok.mp hrest with ⟨files, hfiles, heq⟩
        cases heq
        exact ⟨rfl, hcontext, hfiles⟩
      · intro hall
        rcases hall with ⟨_, hcontext, hfiles⟩
        exact except_bind_eq_ok.mpr ⟨context, hcontext,
          except_bind_eq_ok.mpr ⟨files, hfiles, rfl⟩⟩

/-!
# Paths
-/

theorem path_of_pathStatus {status : PathStatus}
    (hrun : (engine.pathStatus context path).run s = (.ok status, s')) : status.path = path := by
  unfold pathStatus at hrun
  split at hrun
  · cases hrun
    rfl
  · split at hrun
    · cases hrun
      unfold bootstrapStatus
      dsimp only
      split
      · rfl
      · split
        · rfl
        · split <;> rfl
    · rcases run_regularStatus hrun with ⟨_, _, _, _, hpath, _⟩
      exact hpath

theorem verdict_of_recalls {status : PathStatus} (hreview : context.VotersReview)
    (hoverride : context.hasOverride = false)
    (h : Recalls (engine.pathStatus context path) s status) :
    Verdict context (fun id owns => Recalls (engine.isOwner context path id) s owns)
      status.status := by
  rcases h with ⟨s', hrun, hback⟩
  refine (verdict_of_pathStatus hreview hoverride hrun).mono ?_
  intro id owns hanswer
  rcases hanswer with ⟨t, hasked, hle⟩
  exact ⟨t, hasked, le_trans hle hback⟩

theorem recalls_not_both {id : Int} (howns : Recalls (engine.isOwner context path id) s true) :
    ¬ Recalls (engine.isOwner context path id) s false := by
  intro hnot
  cases howns.unique hnot

theorem approved_of_override {status : PathStatus} (hoverride : context.hasOverride = true)
    (h : Recalls (engine.pathStatus context path) s status) : status.status = .approved := by
  rcases h with ⟨s', hrun, _⟩
  unfold pathStatus at hrun
  rw [hoverride, if_pos rfl] at hrun
  cases hrun
  rfl

/-!
# Files
-/

theorem recalls_statusOf_some {status : Option PathStatus} :
    Recalls (engine.statusOf context (some path)) s status ↔
      ∃ found, Recalls (engine.pathStatus context path) s found ∧ some found = status :=
  recalls_map some (engine.loads_pathStatus context path)

theorem recalls_fileStatus {status : FileStatus} :
    Recalls (engine.fileStatus context file) s status ↔
      Recalls (engine.statusOf context file.newPath) s status.new ∧
      Recalls (engine.statusOf context (if file.requiresOldPath then file.oldPath else none)) s
        status.old ∧
      status.file = file := by
  rw [fileStatus_eq, recalls_bind (engine.loads_statusOf context _)
    fun new => (engine.loads_statusOf context _).bind fun old => .done _]
  constructor
  · intro h
    rcases h with ⟨new, hnew, hrest⟩
    rw [recalls_bind (engine.loads_statusOf context _) fun old => .done _] at hrest
    rcases hrest with ⟨old, hold, hpure⟩
    rcases recalls_pure.mp hpure with rfl
    exact ⟨hnew, hold, rfl⟩
  · intro h
    rcases h with ⟨hnew, hold, rfl⟩
    refine ⟨status.new, hnew, ?_⟩
    rw [recalls_bind (engine.loads_statusOf context _) fun old => .done _]
    exact ⟨status.old, hold, recalls_pure.mpr rfl⟩

theorem pathStatuses_of_statusOf {paths : Option String} {status : Option PathStatus}
    (h : Recalls (engine.statusOf context paths) s status) :
    status.toList.map PathStatus.path = paths.toList ∧
      ∀ found ∈ status.toList, Recalls (engine.pathStatus context found.path) s found := by
  cases paths with
  | none =>
      rcases recalls_pure.mp h with rfl
      exact ⟨rfl, fun _ hmem => by cases hmem⟩
  | some path =>
      rcases recalls_statusOf_some.mp h with ⟨found, hfound, rfl⟩
      have hpath : found.path = path := by
        rcases hfound with ⟨s', hrun, _⟩
        exact path_of_pathStatus hrun
      constructor
      · rw [← hpath]
        rfl
      · intro other hmem
        rcases List.mem_singleton.mp hmem with rfl
        rw [hpath]
        exact hfound

theorem pathStatuses_of_fileStatus {status : FileStatus}
    (h : Recalls (engine.fileStatus context file) s status) :
    status.pathStatuses.map PathStatus.path = file.statusPaths ∧
      ∀ found ∈ status.pathStatuses, Recalls (engine.pathStatus context found.path) s found := by
  rcases recalls_fileStatus.mp h with ⟨hnew, hold, _⟩
  rcases pathStatuses_of_statusOf hnew with ⟨hnewPaths, hnewRecalls⟩
  rcases pathStatuses_of_statusOf hold with ⟨holdPaths, holdRecalls⟩
  constructor
  · unfold FileStatus.pathStatuses ChangedFile.statusPaths
    rw [List.map_append, hnewPaths, holdPaths]
  · intro found hfound
    rcases List.mem_append.mp hfound with hmem | hmem
    · exact hnewRecalls found hmem
    · exact holdRecalls found hmem

/-!
# Two contexts

What two contexts make of each path carries over to whole files.
-/

section

variable {other : StatusContext} {R : PathStatus → PathStatus → Prop}
  (hpath : ∀ path status, Recalls (engine.pathStatus context path) s status →
    ∃ found, Recalls (engine.pathStatus other path) s found ∧ R status found)
include hpath

theorem statusOf_pathwise {paths : Option String} {status : Option PathStatus}
    (h : Recalls (engine.statusOf context paths) s status) :
    ∃ found, Recalls (engine.statusOf other paths) s found ∧
      List.Forall₂ R status.toList found.toList := by
  cases paths with
  | none =>
      rcases recalls_pure.mp h with rfl
      exact ⟨none, recalls_pure.mpr rfl, .nil⟩
  | some path =>
      rcases recalls_statusOf_some.mp h with ⟨status, hstatus, rfl⟩
      rcases hpath path status hstatus with ⟨found, hfound, hrelated⟩
      exact ⟨some found, recalls_statusOf_some.mpr ⟨found, hfound, rfl⟩, .cons hrelated .nil⟩

theorem fileStatus_pathwise {status : FileStatus}
    (h : Recalls (engine.fileStatus context file) s status) :
    ∃ found, Recalls (engine.fileStatus other file) s found ∧ status.Pathwise R found := by
  rcases recalls_fileStatus.mp h with ⟨hnew, hold, hfile⟩
  rcases statusOf_pathwise hpath hnew with ⟨new, hnew', hnewRelated⟩
  rcases statusOf_pathwise hpath hold with ⟨old, hold', holdRelated⟩
  exact ⟨{ file, new, old }, recalls_fileStatus.mpr ⟨hnew', hold', rfl⟩,
    ⟨hfile.symm, hnewRelated, holdRelated⟩⟩

theorem files_pathwise {files : List ChangedFile} {statuses : List FileStatus}
    (h : Recalls (files.mapM (engine.fileStatus context)) s statuses) :
    ∃ found, Recalls (files.mapM (engine.fileStatus other)) s found ∧
      List.Forall₂ (FileStatus.Pathwise R) statuses found :=
  exists_recalls_mapM (engine.loads_fileStatus context) (engine.loads_fileStatus other)
    (fun _ _ => fileStatus_pathwise hpath) h

end

/-!
# Changes
-/

/-- Either all files are approved, or one was found that is not. -/
theorem recalls_allApproved {files : List ChangedFile} {approved : Bool}
    (h : Recalls (engine.allApproved context files) s approved) :
    if approved = true then
      ∀ file ∈ files, ∃ status, Recalls (engine.fileStatus context file) s status ∧
        status.isApproved = true
    else
      ∃ file ∈ files, ∃ status, Recalls (engine.fileStatus context file) s status ∧
        status.isApproved = false := by
  induction files with
  | nil =>
      rcases recalls_pure.mp h with rfl
      intro file hfile
      cases hfile
  | cons file rest ih =>
      have hnext : ∀ status : FileStatus, Loads engine.site.tree
          (if status.isApproved then engine.allApproved context rest else pure false) := by
        intro status
        split
        · exact engine.loads_allApproved context rest
        · exact .done false
      rcases (recalls_bind (engine.loads_fileStatus context file) hnext).mp h with
        ⟨status, hstatus, hrest⟩
      cases happroved : status.isApproved with
      | false =>
          rw [happroved] at hrest
          rcases recalls_pure.mp hrest with rfl
          exact ⟨file, List.mem_cons_self, status, hstatus, happroved⟩
      | true =>
          rw [happroved] at hrest
          have hothers := ih hrest
          cases approved with
          | true =>
              intro other hother
              rcases List.mem_cons.mp hother with rfl | hmem
              · exact ⟨status, hstatus, happroved⟩
              · exact hothers other hmem
          | false =>
              rcases hothers with ⟨other, hmem, hfound⟩
              exact ⟨other, List.mem_cons_of_mem file hmem, hfound⟩

theorem recalls_fileStatuses {revision : Option String} {statuses : List FileStatus} :
    Recalls (engine.fileStatuses change revision) s statuses ↔
      checkRevision change revision = .ok () ∧
      ((engine.evaluation? change = .ok none ∧ statuses = []) ∨
        ∃ context files, engine.evaluation? change = .ok (some (context, files)) ∧
          Recalls (files.mapM (engine.fileStatus context)) s statuses) := by
  have hloads := (loads_liftExcept (engine.evaluation? change)).bind engine.loads_statusesOf
  rw [fileStatuses_eq, recalls_bind (loads_liftExcept _) fun _ => hloads]
  constructor
  · intro h
    rcases h with ⟨⟨⟩, hrevision, hrest⟩
    rcases (recalls_bind (loads_liftExcept _) engine.loads_statusesOf).mp hrest with
      ⟨evaluation, hevaluation, hfiles⟩
    rw [recalls_liftExcept] at hrevision hevaluation
    refine ⟨hrevision, ?_⟩
    cases evaluation with
    | none =>
        rcases recalls_pure.mp hfiles with rfl
        exact .inl ⟨hevaluation, rfl⟩
    | some evaluation => exact .inr ⟨evaluation.1, evaluation.2, hevaluation, hfiles⟩
  · intro h
    rcases h with ⟨hrevision, hrest⟩
    refine ⟨⟨⟩, recalls_liftExcept.mpr hrevision,
      (recalls_bind (loads_liftExcept _) engine.loads_statusesOf).mpr ?_⟩
    rcases hrest with ⟨hevaluation, rfl⟩ | ⟨context, files, hevaluation, hfiles⟩
    · exact ⟨none, recalls_liftExcept.mpr hevaluation, recalls_pure.mpr rfl⟩
    · exact ⟨some (context, files), recalls_liftExcept.mpr hevaluation, hfiles⟩

theorem recalls_isSubmittable {submittable : Bool} :
    Recalls (engine.isSubmittable change) s submittable ↔
      (engine.evaluation? change = .ok none ∧ submittable = true) ∨
      ∃ context files, engine.evaluation? change = .ok (some (context, files)) ∧
        Recalls (engine.allApproved context files) s submittable := by
  have hloads : Loads engine.site.tree (liftExcept (engine.evaluation? change)) :=
    loads_liftExcept _
  refine (recalls_bind hloads ?_).trans ?_
  · intro evaluation
    cases evaluation with
    | none => exact .done true
    | some evaluation => exact engine.loads_allApproved evaluation.1 evaluation.2
  constructor
  · intro h
    rcases h with ⟨evaluation, hevaluation, hrest⟩
    rw [recalls_liftExcept] at hevaluation
    cases evaluation with
    | none =>
        rcases recalls_pure.mp hrest with rfl
        exact .inl ⟨hevaluation, rfl⟩
    | some evaluation => exact .inr ⟨evaluation.1, evaluation.2, hevaluation, hrest⟩
  · intro hcases
    rcases hcases with ⟨hevaluation, rfl⟩ | ⟨context, files, hevaluation, hall⟩
    · exact ⟨none, recalls_liftExcept.mpr hevaluation, recalls_pure.mpr rfl⟩
    · exact ⟨some (context, files), recalls_liftExcept.mpr hevaluation, hall⟩

end Engine
end Ownership
