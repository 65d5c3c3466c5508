/-!
# Steps that may fail

A step gives a result or a failure.  Steps are put one behind the other, and a row of steps is done
for the elements of a list.  Steps with a state leave what they have done behind, also where they
fail.
-/

namespace Ownership

variable {ε δ α β : Type}

/-!
# Single steps
-/

theorem except_bind_eq_ok {x : Except ε α} {f : α → Except ε β} {b : β} :
    (x >>= f) = .ok b ↔ ∃ a, x = .ok a ∧ f a = .ok b := by
  cases x with
  | error failure => simp [bind, Except.bind]
  | ok a => simp [bind, Except.bind]

theorem except_map_eq_ok {x : Except ε α} {f : α → β} {b : β} :
    x.map f = .ok b ↔ ∃ a, x = .ok a ∧ f a = b := by
  cases x with
  | error failure => simp [Except.map]
  | ok a => simp [Except.map]

theorem except_map_eq_error {x : Except ε α} {f : α → β} {failure : ε} :
    x.map f = .error failure ↔ x = .error failure := by
  cases x with
  | error other => simp [Except.map]
  | ok a => simp [Except.map]

theorem except_mapError_eq_ok {x : Except ε α} {f : ε → δ} {a : α} :
    x.mapError f = .ok a ↔ x = .ok a := by
  constructor
  · intro h
    cases x with
    | error failure => cases h
    | ok value =>
        cases h
        rfl
  · intro h
    rw [h]
    rfl

/-!
# Steps with a state
-/

section

variable {σ : Type} {x : ExceptT ε (StateM σ) α} {s t : σ} {a : α} {failure : ε}

theorem exceptT_bind_of_ok (h : x.run s = (.ok a, t)) (f : α → ExceptT ε (StateM σ) β) :
    (x >>= f).run s = (f a).run t := by
  change x s = (.ok a, t) at h
  change (ExceptT.bindCont f (x s).1) (x s).2 = f a t
  rw [h]
  rfl

theorem exceptT_bind_of_error (h : x.run s = (.error failure, t))
    (f : α → ExceptT ε (StateM σ) β) : (x >>= f).run s = (.error failure, t) := by
  change x s = (.error failure, t) at h
  change (ExceptT.bindCont f (x s).1) (x s).2 = _
  rw [h]
  rfl

theorem exceptT_tryCatch_of_ok (h : x.run s = (.ok a, t))
    (handle : ε → ExceptT ε (StateM σ) α) : (tryCatch x handle).run s = (.ok a, t) := by
  change x s = (.ok a, t) at h
  simp only [tryCatch, tryCatchThe, MonadExceptOf.tryCatch, ExceptT.tryCatch, ExceptT.run_mk, bind,
    StateT.bind]
  rw [h]
  rfl

theorem exceptT_tryCatch_of_error (h : x.run s = (.error failure, t))
    (handle : ε → ExceptT ε (StateM σ) α) :
    (tryCatch x handle).run s = (handle failure).run t := by
  change x s = (.error failure, t) at h
  simp only [tryCatch, tryCatchThe, MonadExceptOf.tryCatch, ExceptT.tryCatch, ExceptT.run_mk, bind,
    StateT.bind]
  rw [h]
  rfl

end

/-!
# Rows of steps
-/

theorem mapM_fails_iff {f : α → Except ε β} {xs : List α} :
    (∃ reason, xs.mapM f = .error reason) ↔ ∃ x ∈ xs, ∃ reason, f x = .error reason := by
  induction xs with
  | nil => simp [pure, Except.pure]
  | cons x xs ih =>
      rw [List.mapM_cons]
      cases hx : f x with
      | error reason =>
          constructor
          · intro _
            exact ⟨x, List.mem_cons_self, reason, hx⟩
          · intro _
            exact ⟨reason, rfl⟩
      | ok y =>
          have hrest : (∃ reason, (do return y :: (← xs.mapM f)) = Except.error reason) ↔
              ∃ reason, xs.mapM f = .error reason := by
            cases xs.mapM f with
            | error reason => simp [bind, Except.bind]
            | ok ys => simp [bind, Except.bind, pure, Except.pure]
          change (∃ reason, (do return y :: (← xs.mapM f)) = Except.error reason) ↔ _
          rw [hrest, ih]
          simp [hx]

theorem mapM_of_all_ok {f : α → Except ε β} {g : α → β} {xs : List α}
    (h : ∀ x ∈ xs, f x = .ok (g x)) : xs.mapM f = .ok (xs.map g) := by
  induction xs with
  | nil => rfl
  | cons x xs ih =>
      rw [List.mapM_cons, h x List.mem_cons_self, ih fun y hy => h y (List.mem_cons_of_mem x hy)]
      rfl

end Ownership
