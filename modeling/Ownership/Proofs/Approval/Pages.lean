import Ownership.Proofs.Approval.Owned

/-!
# Pages of owned paths

The owned paths of a change come in order and each once.  They can be asked for in parts, and the
parts are those of the whole list.
-/

namespace Ownership

open Walk

namespace Engine

variable {engine : Engine} {change : Change} {context : StatusContext} {id : Int} {path : String}
  {owned : List String} {s s' : Session}

/-!
# Parts and the whole
-/

/-- However a part is given, the same walk is done for it. -/
theorem ownedPaths_eq_map (engine : Engine) (change : Change) (id start : Int)
    (limit : Option Int) :
    engine.ownedPaths change id start limit =
      Text.slice start (limit.map fun limit => start + limit) <$>
        engine.ownedPaths change id 0 none := by
  unfold ownedPaths
  rw [map_bind]
  congr 1
  funext evaluation
  cases evaluation with
  | none => rw [map_pure, Text.slice_nil]
  | some evaluation =>
      dsimp only [Option.map_none]
      rw [map_bind]
      congr 1
      funext owned
      rw [map_pure, Text.slice_zero_none]

theorem run_ownedPaths_part {outcome : Except Failure (List String)}
    (hrun : (engine.ownedPaths change id 0 none).run s = (outcome, s')) (start : Int)
    (limit : Option Int) :
    (engine.ownedPaths change id start limit).run s =
      (outcome.map (Text.slice start (limit.map fun limit => start + limit)), s') := by
  rw [ownedPaths_eq_map, run_map _ hrun]

theorem flatMap_pages (row : List String) (limit count : Nat) :
    (List.range count).flatMap (fun page => (row.drop (page * limit)).take limit) =
      row.take (count * limit) := by
  induction count with
  | zero => simp
  | succ count ih =>
      rw [List.range_succ, List.flatMap_append, ih, List.flatMap_singleton, Nat.succ_mul,
        List.take_add]

/-!
# The whole list
-/

theorem sublist_ownedAmong {paths : List String}
    (h : Recalls (engine.ownedAmong context id paths) s owned) : owned.Sublist paths := by
  induction paths generalizing owned with
  | nil =>
      rcases recalls_pure.mp h with rfl
      exact .slnil
  | cons first rest ih =>
      rcases (recalls_bind (engine.loads_isOwner context first id) fun owns =>
        (engine.loads_ownedAmong context id rest).bind fun _ => .done _).mp h with
        ⟨owns, _, htail⟩
      rcases (recalls_bind (engine.loads_ownedAmong context id rest) fun _ => .done _).mp htail with
        ⟨others, hothers, hpure⟩
      rcases recalls_pure.mp hpure with rfl
      cases owns with
      | true => exact (ih hothers).cons_cons first
      | false => exact (ih hothers).cons first

theorem touchedPaths_increasing (files : List ChangedFile) :
    (touchedPaths files).Pairwise (· < ·) :=
  Text.pairwise_sortedDistinct _

theorem exists_evaluation {start : Int} {limit : Option Int}
    (henabled : (engine.config change.project).isDisabled change.branch = false)
    (hrun : (engine.ownedPaths change id start limit).run s = (.ok owned, s')) :
    ∃ context files, engine.evaluation? change = .ok (some (context, files)) := by
  rcases evaluation?_of_ownedPaths hrun with ⟨evaluation, hevaluation⟩
  cases evaluation with
  | none =>
      rw [evaluation?_eq_none, henabled] at hevaluation
      cases hevaluation
  | some evaluation => exact ⟨evaluation.1, evaluation.2, hevaluation⟩

theorem sublist_ownedPaths {files : List ChangedFile}
    (hevaluation : engine.evaluation? change = .ok (some (context, files)))
    (h : Recalls (engine.ownedPaths change id 0 none) s owned) :
    owned.Sublist (touchedPaths files) := by
  rw [ownedPaths_eq_of_some hevaluation] at h
  rcases (recalls_bind (engine.loads_ownedAmong context id _) fun _ => .done _).mp h with
    ⟨among, hamong, hpure⟩
  rcases recalls_pure.mp hpure with rfl
  rw [Option.map_none, Text.slice_zero_none]
  exact sublist_ownedAmong hamong

/-- What an account owns of a change, as it was found from `s` to `s'`.  From then on every part of
the list is the same part, and pages follow upon each other without a gap. -/
structure OwnsExactly (engine : Engine) (change : Change) (id : Int) (s s' : Session)
    (owned : List String) : Prop where
  increasing : owned.Pairwise (· < ·)
  members : ∃ context files, engine.evaluation? change = .ok (some (context, files)) ∧
    ∀ path, path ∈ owned ↔ (∃ file ∈ files, path ∈ file.touchedPaths) ∧
      Recalls (engine.isOwner context path id) s' true
  parts : ∀ t, t = s ∨ s' ≤ t → ∀ start limit : Nat, ∃ t',
    (engine.ownedPaths change id start (some limit)).run t =
      (.ok ((owned.drop start).take limit), t')
  pages : ∀ limit : Nat, ∃ page : Nat → List String,
    (∀ number t, t = s ∨ s' ≤ t → ∃ t',
      (engine.ownedPaths change id (number * limit : Nat) (some limit)).run t =
        (.ok (page number), t')) ∧
    ∀ count, (List.range count).flatMap page = owned.take (count * limit)

theorem ownsExactly_of_run
    (henabled : (engine.config change.project).isDisabled change.branch = false)
    (hrun : (engine.ownedPaths change id 0 none).run s = (.ok owned, s')) :
    engine.OwnsExactly change id s s' owned := by
  have hloads := engine.loads_ownedPaths change id 0 none
  have hrecalls : Recalls (engine.ownedPaths change id 0 none) s' owned :=
    hloads.recalls hrun le_rfl
  rcases exists_evaluation henabled hrun with ⟨context, files, hevaluation⟩
  have hparts : ∀ t, t = s ∨ s' ≤ t → ∀ start limit : Nat, ∃ t',
      (engine.ownedPaths change id start (some limit)).run t =
        (.ok ((owned.drop start).take limit), t') := by
    intro t ht start limit
    have hagain : ∃ t', (engine.ownedPaths change id 0 none).run t = (.ok owned, t') := by
      rcases ht with rfl | hle
      · exact ⟨s', hrun⟩
      · rcases hrecalls.mono hloads hle with ⟨t', hrun', _⟩
        exact ⟨t', hrun'⟩
    rcases hagain with ⟨t', hrun'⟩
    refine ⟨t', ?_⟩
    rw [run_ownedPaths_part hrun', Option.map_some, ← Text.slice_natCast]
    rfl
  constructor
  · exact (touchedPaths_increasing files).sublist (sublist_ownedPaths hevaluation hrecalls)
  · exact ⟨context, files, hevaluation, fun path => mem_ownedPaths hevaluation hrecalls⟩
  · exact hparts
  · intro limit
    exact ⟨fun number => (owned.drop (number * limit)).take limit,
      fun number t ht => hparts t ht (number * limit) limit, flatMap_pages owned limit⟩

end Engine
end Ownership
