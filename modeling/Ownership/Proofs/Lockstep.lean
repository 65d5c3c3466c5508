import Ownership.Proofs.Hierarchy.Agreement

/-!
# Walks in lockstep

Two walks go in lockstep if they leave the same session behind wherever they start, and come to
related results or fail in the same way.  Visitors who learn different things from the levels of a
climb can still go in lockstep, as what they learn does not lead the climb.
-/

namespace Ownership

variable {α β γ δ : Type}

theorem Alike.mono {R Q : α → β → Prop} {result : Except Failure α} {other : Except Failure β}
    (h : Alike R result other) (himp : ∀ a b, R a b → Q a b) : Alike Q result other := by
  cases h with
  | failed failure => exact .failed failure
  | done hab => exact .done (himp _ _ hab)

namespace Walk

def Lockstep (R : α → β → Prop) (x : Walk α) (y : Walk β) : Prop :=
  ∀ s, (y.run s).2 = (x.run s).2 ∧ Alike R (x.run s).1 (y.run s).1

variable {R : α → β → Prop} {S : γ → δ → Prop} {x : Walk α} {y : Walk β}

theorem lockstep_pure {a : α} {b : β} (h : R a b) : Lockstep R (pure a) (pure b) :=
  fun _ => ⟨rfl, .done h⟩

theorem lockstep_refl (x : Walk α) : Lockstep Eq x x := fun _ => ⟨rfl, .refl (fun _ => rfl) _⟩

theorem lockstep_liftExcept {result : Except Failure α} {other : Except Failure β}
    (h : Alike R result other) : Lockstep R (liftExcept result) (liftExcept other) := by
  intro s
  rw [run_liftExcept, run_liftExcept]
  exact ⟨rfl, h⟩

theorem Lockstep.bind {f : α → Walk γ} {g : β → Walk δ} (hx : Lockstep R x y)
    (hf : ∀ a b, R a b → Lockstep S (f a) (g b)) : Lockstep S (x >>= f) (y >>= g) := by
  intro s
  rcases hx s with ⟨hsession, halike⟩
  rcases hrun : x.run s with ⟨outcome, t⟩
  rcases hrun' : y.run s with ⟨outcome', t'⟩
  rw [hrun, hrun'] at halike hsession
  change t' = t at hsession
  rw [hsession] at hrun'
  cases halike with
  | failed failure =>
      rw [run_bind_of_error hrun, run_bind_of_error hrun']
      exact ⟨rfl, .failed failure⟩
  | done hab =>
      rw [run_bind_of_ok hrun, run_bind_of_ok hrun']
      exact hf _ _ hab t

theorem Lockstep.after (z : Walk α) {f : α → Walk γ} {g : α → Walk δ}
    (h : ∀ a, Lockstep S (f a) (g a)) : Lockstep S (z >>= f) (z >>= g) := by
  apply (lockstep_refl z).bind
  intro a b hab
  rw [← hab]
  exact h a

theorem Lockstep.mapM {f : α → Walk β} {g : α → Walk γ} {R : β → γ → Prop}
    (h : ∀ a, Lockstep R (f a) (g a)) (xs : List α) :
    Lockstep (List.Forall₂ R) (xs.mapM f) (xs.mapM g) := by
  induction xs with
  | nil => exact lockstep_pure .nil
  | cons x rest ih =>
      rw [List.mapM_cons, List.mapM_cons]
      exact (h x).bind fun b c hbc => ih.bind fun bs cs hrest => lockstep_pure (.cons hbc hrest)

theorem Lockstep.run_eq {x y : Walk α} (h : Lockstep Eq x y) (s : Session) : y.run s = x.run s := by
  rcases h s with ⟨hsession, halike⟩
  apply Prod.ext _ hsession
  generalize (x.run s).1 = outcome at halike ⊢
  generalize (y.run s).1 = outcome' at halike ⊢
  cases halike with
  | failed failure => rfl
  | done hsame => rw [hsame]

theorem Lockstep.mono {Q : α → β → Prop} (h : Lockstep R x y) (himp : ∀ a b, R a b → Q a b) :
    Lockstep Q x y :=
  fun s => ⟨(h s).1, (h s).2.mono himp⟩

end Walk

namespace Hierarchy

open Walk

variable {site : Site} {R : β → γ → Prop} {visit : β → Level → Walk (ForInStep β)}
  {visit' : γ → Level → Walk (ForInStep γ)}

theorem lockstep_visitFolders
    (hvisit : ∀ state other level, R state other →
      Lockstep (SameStep R) (visit state level) (visit' other level))
    (climb : Climb) (distance : Nat) (folders : List String) {state : β} {other : γ}
    (hstate : R state other) :
    Lockstep R (visitFolders site climb visit distance folders state)
      (visitFolders site climb visit' distance folders other) := by
  induction folders generalizing distance state other with
  | nil => exact lockstep_pure hstate
  | cons folder rest ih =>
      rw [visitFolders_cons, visitFolders_cons]
      apply Lockstep.after
      intro found
      cases found with
      | none => exact ih (distance + 1) hstate
      | some level =>
          apply (hvisit state other level hstate).bind
          intro step step' hstep
          cases hstep with
          | done hnext => exact lockstep_pure hnext
          | yield hnext =>
              apply Lockstep.after
              intro ends
              split
              · exact lockstep_pure hnext
              · exact ih (distance + 1) hnext

theorem lockstep_visitLevels
    (hvisit : ∀ state other level, R state other →
      Lockstep (SameStep R) (visit state level) (visit' other level))
    (place : Place) {start : β} {start' : γ} (hstart : R start start') :
    Lockstep R (visitLevels site place start visit) (visitLevels site place start' visit') := by
  unfold visitLevels
  apply Lockstep.after
  intro climb
  exact lockstep_visitFolders hvisit climb 0 climb.folders hstart

end Hierarchy
end Ownership
