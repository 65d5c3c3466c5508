import Ownership.Proofs.Walks

/-!
# Climbs and their levels

Whoever climbs sees levels one after the other and may stop at any of them.  What visitors have in
common is the climb itself: the levels that it hands out, and the session after each of them.  Two
visitors of one climb can so be compared level by level, although one of them may stop earlier.
-/

namespace Ownership
namespace Hierarchy

open Walk

variable {β : Type} {site : Site} {climb : Climb} {s s' : Session}

/-!
# Visitors

A visitor judges each level by what it has seen before.  It does not load anything.
-/

abbrev Visitor (β : Type) := β → Level → Except Failure (ForInStep β)

def visitAll (visitor : Visitor β) : β → List Level → Except Failure (ForInStep β)
  | state, [] => .ok (.yield state)
  | state, level :: rest =>
      match visitor state level with
      | .error failure => .error failure
      | .ok (.done state) => .ok (.done state)
      | .ok (.yield state) => visitAll visitor state rest

theorem visitAll_cons_of_done {visitor : Visitor β} {state final : β} {level : Level}
    (h : visitor state level = .ok (.done final)) (rest : List Level) :
    visitAll visitor state (level :: rest) = .ok (.done final) := by
  unfold visitAll
  rw [h]

theorem visitAll_cons_of_yield {visitor : Visitor β} {state next : β} {level : Level}
    (h : visitor state level = .ok (.yield next)) (rest : List Level) :
    visitAll visitor state (level :: rest) = visitAll visitor next rest := by
  conv => left; unfold visitAll
  rw [h]

theorem visitAll_cons_eq_ok {visitor : Visitor β} {state : β} {level : Level} {rest : List Level}
    {step : ForInStep β} (h : visitAll visitor state (level :: rest) = .ok step) :
    (∃ final, visitor state level = .ok (.done final) ∧ step = .done final) ∨
      ∃ next, visitor state level = .ok (.yield next) ∧ visitAll visitor next rest = .ok step := by
  cases hlevel : visitor state level with
  | error failure =>
      unfold visitAll at h
      rw [hlevel] at h
      cases h
  | ok first =>
      cases first with
      | done final =>
          rw [visitAll_cons_of_done hlevel] at h
          cases h
          exact .inl ⟨final, rfl, rfl⟩
      | yield next =>
          rw [visitAll_cons_of_yield hlevel] at h
          exact .inr ⟨next, rfl, h⟩

/-!
# The levels that a climb hands out

The climb over some folders starts in a session, hands out levels, and has then come to another
session.  It is complete if no level is left; otherwise it has just handed out its last one.
-/

inductive Climbs (site : Site) (climb : Climb) :
    Nat → List String → Session → List Level → Bool → Session → Prop
  /-- No folder is left. -/
  | top {distance : Nat} {s : Session} : Climbs site climb distance [] s [] true s
  /-- The folder has no configuration. -/
  | skip {distance : Nat} {folder : String} {rest : List String} {s t s' : Session}
      {levels : List Level} {complete : Bool} :
      (levelAt? site climb folder distance).run s = (.ok none, t) →
      Climbs site climb (distance + 1) rest t levels complete s' →
      Climbs site climb distance (folder :: rest) s levels complete s'
  /-- The visitor stops at the level. -/
  | stop {distance : Nat} {folder : String} {rest : List String} {s t : Session} {level : Level} :
      (levelAt? site climb folder distance).run s = (.ok (some level), t) →
      Climbs site climb distance (folder :: rest) s [level] false t
  /-- The climb ends above the level. -/
  | last {distance : Nat} {folder : String} {rest : List String} {s t : Session} {level : Level} :
      (levelAt? site climb folder distance).run s = (.ok (some level), t) →
      level.endsClimb climb.path = .ok true →
      Climbs site climb distance (folder :: rest) s [level] true t
  | pass {distance : Nat} {folder : String} {rest : List String} {s t s' : Session}
      {level : Level} {levels : List Level} {complete : Bool} :
      (levelAt? site climb folder distance).run s = (.ok (some level), t) →
      level.endsClimb climb.path = .ok false →
      Climbs site climb (distance + 1) rest t levels complete s' →
      Climbs site climb distance (folder :: rest) s (level :: levels) complete s'

theorem Climbs.keeps {distance : Nat} {folders : List String} {levels : List Level}
    {complete : Bool} (h : Climbs site climb distance folders s levels complete s') : s ≤ s' := by
  induction h with
  | top => exact le_rfl
  | skip hlevel _ ih => exact le_trans ((loads_levelAt? site climb _ _).keeps hlevel) ih
  | stop hlevel => exact (loads_levelAt? site climb _ _).keeps hlevel
  | last hlevel _ => exact (loads_levelAt? site climb _ _).keeps hlevel
  | pass hlevel _ _ ih => exact le_trans ((loads_levelAt? site climb _ _).keeps hlevel) ih

theorem run_isLast_of_endsClimb {level : Level} {ends : Bool}
    (h : level.endsClimb climb.path = .ok ends) (s : Session) :
    (isLast climb level).run s = (.ok ends, s) := by
  unfold isLast
  rw [h]
  rfl

theorem run_isLast_eq_ok {level : Level} {ends : Bool}
    (h : (isLast climb level).run s = (.ok ends, s')) :
    level.endsClimb climb.path = .ok ends ∧ s' = s := by
  rcases run_liftExcept_eq_ok h with ⟨hends, hsession⟩
  refine ⟨?_, hsession⟩
  cases hlevel : level.endsClimb climb.path with
  | error failure =>
      rw [hlevel] at hends
      cases hends
  | ok value =>
      rw [hlevel] at hends
      cases hends
      rfl

/-!
# Climbing with a visitor
-/

section

variable {visit : β → Level → Walk (ForInStep β)} {visitor : Visitor β}
  (hvisit : ∀ state level, visit state level = liftExcept (visitor state level))
  {distance : Nat} {folder : String} {rest folders : List String} {level : Level}
  {levels : List Level} {state next final : β}

theorem run_visitFolders_of_none
    (hlevel : (levelAt? site climb folder distance).run s = (.ok none, s')) :
    (visitFolders site climb visit distance (folder :: rest) state).run s =
      (visitFolders site climb visit (distance + 1) rest state).run s' := by
  rw [visitFolders_cons, run_bind_of_ok hlevel]

include hvisit

theorem run_visitFolders_of_done
    (hlevel : (levelAt? site climb folder distance).run s = (.ok (some level), s'))
    (hdone : visitor state level = .ok (.done final)) :
    (visitFolders site climb visit distance (folder :: rest) state).run s = (.ok final, s') := by
  rw [visitFolders_cons, run_bind_of_ok hlevel]
  dsimp only
  rw [hvisit, hdone]
  rfl

theorem run_visitFolders_of_yield
    (hlevel : (levelAt? site climb folder distance).run s = (.ok (some level), s'))
    (hyield : visitor state level = .ok (.yield next)) {ends : Bool}
    (hends : level.endsClimb climb.path = .ok ends) :
    (visitFolders site climb visit distance (folder :: rest) state).run s =
      if ends = true then (.ok next, s')
      else (visitFolders site climb visit (distance + 1) rest next).run s' := by
  have hstep : (visit state level).run s' = (.ok (.yield next), s') := by
    rw [hvisit, hyield]
    rfl
  rw [visitFolders_cons, run_bind_of_ok hlevel]
  dsimp only
  rw [run_bind_of_ok hstep]
  dsimp only
  rw [run_bind_of_ok (run_isLast_of_endsClimb hends s')]
  cases ends <;> rfl

/-- A visitor has been shown the levels of a climb, and has stopped unless the climb is
complete. -/
theorem climbs_of_run
    (hrun : (visitFolders site climb visit distance folders state).run s = (.ok final, s')) :
    ∃ levels complete, Climbs site climb distance folders s levels complete s' ∧
      visitAll visitor state levels =
        .ok (if complete = true then .yield final else .done final) := by
  induction folders generalizing distance state s with
  | nil =>
      cases hrun
      exact ⟨[], true, .top, rfl⟩
  | cons folder rest ih =>
      rw [visitFolders_cons] at hrun
      rcases run_bind_eq_ok.mp hrun with ⟨found, t, hlevel, hrest⟩
      cases found with
      | none =>
          rcases ih hrest with ⟨levels, complete, hclimbs, hall⟩
          exact ⟨levels, complete, .skip hlevel hclimbs, hall⟩
      | some level =>
          rcases run_bind_eq_ok.mp hrest with ⟨step, u, hvisited, hnext⟩
          rw [hvisit] at hvisited
          rcases run_liftExcept_eq_ok hvisited with ⟨hstep, rfl⟩
          cases step with
          | done state =>
              cases hnext
              refine ⟨[level], false, .stop hlevel, ?_⟩
              rw [visitAll_cons_of_done hstep]
              rfl
          | yield next =>
              rcases run_bind_eq_ok.mp hnext with ⟨ends, v, hasked, hclimb⟩
              rcases run_isLast_eq_ok hasked with ⟨hends, rfl⟩
              cases ends with
              | true =>
                  cases hclimb
                  refine ⟨[level], true, .last hlevel hends, ?_⟩
                  rw [visitAll_cons_of_yield hstep]
                  rfl
              | false =>
                  rcases ih hclimb with ⟨levels, complete, hclimbs, hall⟩
                  refine ⟨level :: levels, complete, .pass hlevel hends hclimbs, ?_⟩
                  rw [visitAll_cons_of_yield hstep]
                  exact hall

theorem Climbs.run_of_done {complete : Bool}
    (h : Climbs site climb distance folders s levels complete s')
    (hall : visitAll visitor state levels = .ok (.done final)) :
    ∃ t, (visitFolders site climb visit distance folders state).run s = (.ok final, t) ∧
      t ≤ s' := by
  induction h generalizing state with
  | top => cases hall
  | skip hlevel _ ih =>
      rw [run_visitFolders_of_none hlevel]
      exact ih hall
  | stop hlevel =>
      rcases visitAll_cons_eq_ok hall with ⟨_, hdone, heq⟩ | ⟨_, _, hnil⟩
      · cases heq
        exact ⟨_, run_visitFolders_of_done hvisit hlevel hdone, le_rfl⟩
      · cases hnil
  | last hlevel _ =>
      rcases visitAll_cons_eq_ok hall with ⟨_, hdone, heq⟩ | ⟨_, _, hnil⟩
      · cases heq
        exact ⟨_, run_visitFolders_of_done hvisit hlevel hdone, le_rfl⟩
      · cases hnil
  | pass hlevel hends hrest ih =>
      rcases visitAll_cons_eq_ok hall with ⟨_, hdone, heq⟩ | ⟨next, hyield, hnext⟩
      · cases heq
        exact ⟨_, run_visitFolders_of_done hvisit hlevel hdone, hrest.keeps⟩
      · rw [run_visitFolders_of_yield hvisit hlevel hyield hends]
        exact ih hnext

theorem Climbs.run_of_yield (h : Climbs site climb distance folders s levels true s')
    (hall : visitAll visitor state levels = .ok (.yield final)) :
    (visitFolders site climb visit distance folders state).run s = (.ok final, s') := by
  generalize hcomplete : true = complete at h
  induction h generalizing state with
  | top =>
      cases hall
      rfl
  | skip hlevel _ ih =>
      rw [run_visitFolders_of_none hlevel]
      exact ih hall hcomplete
  | stop _ => cases hcomplete
  | last hlevel hends =>
      rcases visitAll_cons_eq_ok hall with ⟨_, _, heq⟩ | ⟨next, hyield, hnil⟩
      · cases heq
      · cases hnil
        rw [run_visitFolders_of_yield hvisit hlevel hyield hends]
        rfl
  | pass hlevel hends _ ih =>
      rcases visitAll_cons_eq_ok hall with ⟨_, _, heq⟩ | ⟨next, hyield, hnext⟩
      · cases heq
      · rw [run_visitFolders_of_yield hvisit hlevel hyield hends]
        exact ih hnext hcomplete

/-!
# Climbing from a place
-/

/-- The climb from a place, as it is shown to a visitor. -/
def Shows (site : Site) (place : Place) (s : Session) (levels : List Level) (complete : Bool)
    (s' : Session) : Prop :=
  ∃ climb, prepare site place = .ok climb ∧
    Climbs site climb 0 climb.folders s levels complete s'

variable {place : Place}

omit hvisit in
theorem Shows.keeps {complete : Bool} (h : Shows site place s levels complete s') : s ≤ s' := by
  rcases h with ⟨climb, _, hclimbs⟩
  exact hclimbs.keeps

theorem shows_of_run
    (hrun : (visitLevels site place state visit).run s = (.ok final, s')) :
    ∃ levels complete, Shows site place s levels complete s' ∧
      visitAll visitor state levels =
        .ok (if complete = true then .yield final else .done final) := by
  rcases run_bind_eq_ok.mp hrun with ⟨climb, t, hprepared, hclimb⟩
  rcases run_liftExcept_eq_ok hprepared with ⟨hprepare, rfl⟩
  rcases climbs_of_run hvisit hclimb with ⟨levels, complete, hclimbs, hall⟩
  exact ⟨levels, complete, ⟨climb, hprepare, hclimbs⟩, hall⟩

theorem Shows.run_of_done {complete : Bool} (h : Shows site place s levels complete s')
    (hall : visitAll visitor state levels = .ok (.done final)) :
    ∃ t, (visitLevels site place state visit).run s = (.ok final, t) ∧ t ≤ s' := by
  rcases h with ⟨climb, hprepare, hclimbs⟩
  unfold visitLevels
  rw [hprepare]
  exact hclimbs.run_of_done hvisit hall

theorem Shows.run_of_yield (h : Shows site place s levels true s')
    (hall : visitAll visitor state levels = .ok (.yield final)) :
    (visitLevels site place state visit).run s = (.ok final, s') := by
  rcases h with ⟨climb, hprepare, hclimbs⟩
  unfold visitLevels
  rw [hprepare]
  exact hclimbs.run_of_yield hvisit hall

end

/-!
# Collecting levels

Whoever asks for all levels is shown a complete climb.
-/

section

variable {place : Place} {seen : List Level}

def collect : Visitor (List Level) := fun levels level => .ok (.yield (levels ++ [level]))

theorem visitAll_collect (before seen : List Level) :
    visitAll collect before seen = .ok (.yield (before ++ seen)) := by
  induction seen generalizing before with
  | nil => rw [List.append_nil, visitAll]
  | cons level rest ih =>
      have hstep : collect before level = .ok (.yield (before ++ [level])) := rfl
      rw [visitAll_cons_of_yield hstep, ih, List.append_assoc, List.singleton_append]

theorem yield_eq_collect (levels : List Level) (level : Level) :
    (pure (.yield (levels ++ [level])) : Walk (ForInStep (List Level))) =
      liftExcept (collect levels level) := rfl

theorem Shows.run_levels (h : Shows site place s seen true s') :
    (levels site place).run s = (.ok seen, s') :=
  h.run_of_yield yield_eq_collect (visitAll_collect [] seen)

theorem shows_of_run_levels (h : (levels site place).run s = (.ok seen, s')) :
    Shows site place s seen true s' := by
  rcases shows_of_run yield_eq_collect h with ⟨shown, complete, hshows, hall⟩
  rw [visitAll_collect, List.nil_append] at hall
  cases complete with
  | false => cases hall
  | true =>
      cases hall
      exact hshows

end

end Hierarchy
end Ownership
