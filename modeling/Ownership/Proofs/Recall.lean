import Mathlib.Data.List.Forall2
import Ownership.Proofs.Memory

/-!
# Recalling walks

A walk that has come to its end comes to the same end again from any session that remembers what it
read, and two runs of one walk agree as long as their sessions do not contradict each other.  Both
hold because loading configurations is all that a walk does with its session.
-/

namespace Ownership

variable {tree : Tree} {α β : Type} {s s' t t' : Session}

/-!
# Walks that load

A walk either ends, or loads a configuration and goes on with what it has found.
-/

namespace Walk

inductive Loads (tree : Tree) : Walk α → Prop
  | done (a : α) : Loads tree (pure a)
  | fail (failure : Failure) : Loads tree (throw failure)
  | load (backend : Backend) (key : ConfigKey) (revision : String)
      (next : Option OwnerConfig → Walk α) :
      (∀ config, Loads tree (next config)) →
      Loads tree (Loader.loadOrSkip tree backend key revision >>= next)

theorem Loads.bind {x : Walk α} {f : α → Walk β} (hx : Loads tree x)
    (hf : ∀ a, Loads tree (f a)) : Loads tree (x >>= f) := by
  induction hx with
  | done a =>
      rw [pure_bind]
      exact hf a
  | fail failure => exact .fail failure
  | load backend key revision next _ ih =>
      rw [bind_assoc]
      exact .load backend key revision _ ih

theorem loads_liftExcept (result : Except Failure α) : Loads tree (liftExcept result) := by
  cases result with
  | ok a => exact .done a
  | error failure => exact .fail failure

theorem loads_loadOrSkip (backend : Backend) (key : ConfigKey) (revision : String) :
    Loads tree (Loader.loadOrSkip tree backend key revision) := by
  rw [← bind_pure (Loader.loadOrSkip tree backend key revision)]
  exact .load backend key revision pure .done

theorem Loads.map {x : Walk α} (f : α → β) (hx : Loads tree x) : Loads tree (f <$> x) := by
  rw [← bind_pure_comp]
  exact hx.bind fun a => .done (f a)

theorem Loads.mapM {f : α → Walk β} (hf : ∀ a, Loads tree (f a)) (xs : List α) :
    Loads tree (xs.mapM f) := by
  induction xs with
  | nil => exact .done []
  | cons x rest ih =>
      rw [List.mapM_cons]
      exact (hf x).bind fun b => ih.bind fun bs => .done (b :: bs)

theorem Loads.leadsTo {walk : Walk α} (h : Loads tree walk) {outcome : Except Failure α}
    (hrun : walk.run s = (outcome, s')) : s.LeadsTo tree s' := by
  induction h generalizing s with
  | done a =>
      cases hrun
      exact .refl tree _
  | fail failure =>
      cases hrun
      exact .refl tree _
  | load backend key revision next _ ih =>
      rename_i s
      rcases hmid : (Loader.loadOrSkip tree backend key revision).run s with ⟨_ | config, t⟩
      · rw [run_bind_of_error hmid] at hrun
        cases hrun
        exact (Loader.loading_of_run hmid).leadsTo
      · rw [run_bind_of_ok hmid] at hrun
        exact (Loader.loading_of_run hmid).leadsTo.trans (ih config hrun)

theorem Loads.keeps {walk : Walk α} (h : Loads tree walk) {outcome : Except Failure α}
    (hrun : walk.run s = (outcome, s')) : s ≤ s' :=
  (h.leadsTo hrun).keeps

/-!
# Doing a walk again

A session *recalls* what a walk comes to if it need not read anything for it.  A walk that has come
to its end is recalled from then on, and what is recalled is made up of what its steps recall.
-/

def Recalls (walk : Walk α) (s : Session) (a : α) : Prop :=
  ∃ s', walk.run s = (.ok a, s') ∧ s' ≤ s

theorem Recalls.unique {walk : Walk α} {a b : α} (ha : Recalls walk s a) (hb : Recalls walk s b) :
    a = b := by
  rcases ha with ⟨t, hrun, _⟩
  rcases hb with ⟨t', hrun', _⟩
  rw [hrun] at hrun'
  cases hrun'
  rfl

theorem Loads.recalls {walk : Walk α} (h : Loads tree walk) {a : α}
    (hrun : walk.run s = (.ok a, s')) (hle : s' ≤ t) : Recalls walk t a := by
  induction h generalizing s t with
  | done b =>
      cases hrun
      exact ⟨t, rfl, le_rfl⟩
  | fail failure => cases hrun
  | load backend key revision next hnext ih =>
      rcases run_bind_eq_ok.mp hrun with ⟨config, mid, hfirst, hrest⟩
      rcases (Loader.loading_of_run hfirst).remembers with ⟨reading, hknown, hconfig⟩
      -- What the first run found is still there, so the second run finds it without reading.
      have hknown' : t.cache.get? (Loader.cacheKey backend key revision) = some reading :=
        hle _ _ ((hnext config).keeps hrest _ _ hknown)
      rcases Loader.run_loadOrSkip_of_remembered tree hknown' with ⟨u, hagain, hcache⟩
      rw [hconfig] at hagain
      have hle' : s' ≤ u := le_trans hle (Session.le_of_cache_eq hcache.symm)
      rcases ih config hrest hle' with ⟨u', hrun', hback⟩
      refine ⟨u', ?_, le_trans hback (Session.le_of_cache_eq hcache)⟩
      rw [run_bind_of_ok hagain]
      exact hrun'

theorem Recalls.mono {walk : Walk α} (h : Loads tree walk) {a : α} (ha : Recalls walk s a)
    (hle : s ≤ t) : Recalls walk t a := by
  rcases ha with ⟨s', hrun, hback⟩
  exact h.recalls hrun (le_trans hback hle)

@[simp] theorem recalls_pure {a b : α} : Recalls (pure a : Walk α) s b ↔ a = b := by
  constructor
  · intro h
    rcases h with ⟨s', hrun, _⟩
    cases hrun
    rfl
  · intro h
    rcases h with rfl
    exact ⟨s, rfl, le_rfl⟩

@[simp] theorem recalls_liftExcept {result : Except Failure α} {a : α} :
    Recalls (liftExcept result) s a ↔ result = .ok a := by
  constructor
  · intro h
    rcases h with ⟨s', hrun, _⟩
    rw [run_liftExcept] at hrun
    exact congrArg Prod.fst hrun
  · intro h
    rcases h with rfl
    exact ⟨s, rfl, le_rfl⟩

theorem recalls_bind {x : Walk α} {f : α → Walk β} (hx : Loads tree x)
    (hf : ∀ a, Loads tree (f a)) {b : β} :
    Recalls (x >>= f) s b ↔ ∃ a, Recalls x s a ∧ Recalls (f a) s b := by
  constructor
  · intro h
    rcases h with ⟨s', hrun, hback⟩
    rcases run_bind_eq_ok.mp hrun with ⟨a, mid, hfirst, hrest⟩
    have hmid : mid ≤ s := le_trans ((hf a).keeps hrest) hback
    exact ⟨a, ⟨mid, hfirst, hmid⟩, (hf a).recalls hrest hback⟩
  · intro h
    rcases h with ⟨a, ⟨mid, hfirst, hmid⟩, ha⟩
    rcases ha.mono (hf a) (hx.keeps hfirst) with ⟨s', hrest, hback⟩
    exact ⟨s', run_bind_eq_ok.mpr ⟨a, mid, hfirst, hrest⟩, le_trans hback hmid⟩

theorem recalls_map {x : Walk α} (f : α → β) (hx : Loads tree x) {b : β} :
    Recalls (f <$> x) s b ↔ ∃ a, Recalls x s a ∧ f a = b := by
  rw [← bind_pure_comp, recalls_bind hx fun a => .done (f a)]
  simp

/-- What is recalled for each element is recalled for the whole list. -/
theorem exists_recalls_mapM {γ : Type} {f : α → Walk β} {g : α → Walk γ} {R : β → γ → Prop}
    (hf : ∀ a, Loads tree (f a)) (hg : ∀ a, Loads tree (g a))
    (h : ∀ a b, Recalls (f a) s b → ∃ c, Recalls (g a) s c ∧ R b c) {xs : List α} {bs : List β}
    (hxs : Recalls (xs.mapM f) s bs) :
    ∃ cs, Recalls (xs.mapM g) s cs ∧ List.Forall₂ R bs cs := by
  induction xs generalizing bs with
  | nil =>
      rcases recalls_pure.mp hxs with rfl
      exact ⟨[], recalls_pure.mpr rfl, .nil⟩
  | cons x rest ih =>
      rw [List.mapM_cons] at hxs
      rcases (recalls_bind (hf x) fun b => (Loads.mapM hf rest).bind fun bs => .done _).mp hxs with
        ⟨b, hb, htail⟩
      rcases (recalls_bind (Loads.mapM hf rest) fun bs => .done _).mp htail with
        ⟨others, hothers, hpure⟩
      rcases recalls_pure.mp hpure with rfl
      rcases h x b hb with ⟨c, hc, hbc⟩
      rcases ih hothers with ⟨cs, hcs, hrelated⟩
      refine ⟨c :: cs, ?_, .cons hbc hrelated⟩
      rw [List.mapM_cons, recalls_bind (hg x) fun c => (Loads.mapM hg rest).bind fun cs => .done _]
      refine ⟨c, hc, ?_⟩
      rw [recalls_bind (Loads.mapM hg rest) fun cs => .done _]
      exact ⟨cs, hcs, recalls_pure.mpr rfl⟩

/-- Two runs of a walk whose sessions end without contradiction come to the same end.  The second
cannot fail for want of a file that the first has known. -/
theorem Loads.agrees {walk : Walk α} (h : Loads tree walk) {last : Session} {a : α}
    {outcome : Except Failure α} (hrun : walk.run s = (.ok a, s'))
    (hrun' : walk.run t = (outcome, t')) (hs : s' ≤ last) (ht : t' ≤ last)
    (hknown : ∀ key, s'.Knows key → t.Knows key ∨ tree.CanRead key) : outcome = .ok a := by
  induction h generalizing s t with
  | done b =>
      cases hrun
      cases hrun'
      rfl
  | fail failure => cases hrun
  | load backend key revision next hnext ih =>
      rcases run_bind_eq_ok.mp hrun with ⟨config, mid, hfirst, hrest⟩
      rcases (Loader.loading_of_run hfirst).remembers with ⟨reading, hread, hconfig⟩
      have hread' : s'.cache.get? (Loader.cacheKey backend key revision) = some reading :=
        (hnext config).keeps hrest _ _ hread
      rcases hfirst' : (Loader.loadOrSkip tree backend key revision).run t with
        ⟨failure | config', u⟩
      · -- The second run cannot read a file that the first knows.
        cases Loader.loading_of_run hfirst' with
        | unreadable hnew hfail _ =>
            rcases hknown _ ⟨reading, hread'⟩ with ⟨old, hold⟩ | hcan
            · rw [hnew] at hold
              cases hold
            · have hcan' : ∃ fresh, Loader.readFresh tree backend key revision = .ok fresh :=
                Loader.readFresh_ok_iff.mpr hcan
              rcases hcan' with ⟨fresh, hfresh⟩
              rw [hfail] at hfresh
              cases hfresh
      · have hload' := Loader.loading_of_run hfirst'
        rw [run_bind_of_ok hfirst'] at hrun'
        rcases hload'.remembers with ⟨reading', hthere, hconfig'⟩
        have hsame : some reading' = some reading :=
          (ht _ _ ((hnext config').keeps hrun' _ _ hthere)).symm.trans (hs _ _ hread')
        cases hsame
        rw [hconfig] at hconfig'
        cases hconfig'
        refine ih config hrest hrun' fun other hother => ?_
        rcases hknown other hother with hold | hcan
        · exact .inl (hold.mono hload'.leadsTo.keeps)
        · exact .inr hcan

end Walk

/-- Two runs, from `s` to `s'` and from `t` to `t'`, belong to one history: both begin at or after
some session, and some session remembers what both have read.  One of them may begin where the other
has ended, or much later. -/
def Session.OneHistory (tree : Tree) (s s' t t' : Session) : Prop :=
  ∃ origin last : Session, origin.LeadsTo tree s ∧ origin.LeadsTo tree t ∧ s' ≤ last ∧ t' ≤ last

theorem Session.LeadsTo.oneHistory (hfirst : s.LeadsTo tree s') (hbetween : s'.LeadsTo tree t)
    (hsecond : t.LeadsTo tree t') : Session.OneHistory tree s s' t t' :=
  ⟨s, t', .refl tree s, hfirst.trans hbetween, (hbetween.trans hsecond).keeps, le_rfl⟩

theorem Walk.Loads.outcome_of_recalls {walk : Walk α} (h : Loads tree walk) {a : α}
    {outcome : Except Failure α} (hrecalls : Recalls walk s' a) (hleads : s.LeadsTo tree s')
    (hrun : walk.run t = (outcome, t')) (hhistory : Session.OneHistory tree s s' t t') :
    outcome = .ok a := by
  rcases hhistory with ⟨origin, last, hs, ht, hs', ht'⟩
  rcases hrecalls with ⟨u, hrecalled, hback⟩
  refine h.agrees hrecalled hrun (le_trans hback hs') ht' fun key hkey => ?_
  rcases (hs.trans hleads).knows_or_canRead (hkey.mono hback) with hknown | hcan
  · exact .inl (hknown.mono ht.keeps)
  · exact .inr hcan

end Ownership
