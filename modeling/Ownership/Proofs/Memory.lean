import Mathlib.Order.Defs.PartialOrder
import Ownership.Loader
import Ownership.Proofs.Steps

/-!
# What sessions remember

A session answers from its cache what it has read before, so what a walk finds depends on the
walks before it.  Sessions are ordered by what they remember, and a walk that loads a configuration
goes up in this order.
-/

namespace Ownership

variable {tree : Tree} {α β : Type} {s s' t t' : Session}

/-!
# Runs of walks
-/

def Walk.run (walk : Walk α) (session : Session) : Except Failure α × Session := walk session

namespace Walk

@[simp] theorem run_pure (a : α) (s : Session) : run (pure a) s = (.ok a, s) := rfl

@[simp] theorem run_throw (failure : Failure) (s : Session) :
    run (throw failure : Walk α) s = (.error failure, s) := rfl

@[simp] theorem run_liftExcept (result : Except Failure α) (s : Session) :
    run (liftExcept result) s = (result, s) := by
  cases result <;> rfl

theorem run_liftExcept_eq_ok {result : Except Failure α} {a : α}
    (h : run (liftExcept result) s = (.ok a, s')) : result = .ok a ∧ s' = s := by
  rw [run_liftExcept] at h
  exact ⟨congrArg Prod.fst h, (congrArg Prod.snd h).symm⟩

theorem liftExcept_bind (result : Except Failure α) (f : α → Except Failure β) :
    (liftExcept (result >>= f) : Walk β) = liftExcept result >>= fun a => liftExcept (f a) := by
  cases result <;> rfl

@[simp] theorem run_get (s : Session) : run get s = (.ok s, s) := rfl

theorem run_bind_of_ok {x : Walk α} {f : α → Walk β} {a : α} (h : run x s = (.ok a, t)) :
    run (x >>= f) s = run (f a) t :=
  exceptT_bind_of_ok h f

theorem run_bind_of_error {x : Walk α} {f : α → Walk β} {failure : Failure}
    (h : run x s = (.error failure, t)) : run (x >>= f) s = (.error failure, t) :=
  exceptT_bind_of_error h f

theorem run_map (f : α → β) {walk : Walk α} {outcome : Except Failure α}
    (hrun : walk.run s = (outcome, s')) : (f <$> walk).run s = (outcome.map f, s') := by
  rw [← bind_pure_comp]
  cases outcome with
  | error failure => exact run_bind_of_error hrun
  | ok a => exact run_bind_of_ok hrun

theorem run_bind_eq_ok {x : Walk α} {f : α → Walk β} {b : β} :
    run (x >>= f) s = (.ok b, s') ↔ ∃ a t, run x s = (.ok a, t) ∧ run (f a) t = (.ok b, s') := by
  rcases hx : run x s with ⟨_ | a, t⟩
  · rw [run_bind_of_error hx]
    simp
  · rw [run_bind_of_ok hx]
    constructor
    · intro h
      exact ⟨a, t, rfl, h⟩
    · intro hsome
      rcases hsome with ⟨a', t', heq, h⟩
      cases heq
      exact h

theorem run_bind_eq_error {x : Walk α} {f : α → Walk β} {failure : Failure} :
    run (x >>= f) s = (.error failure, s') ↔
      run x s = (.error failure, s') ∨
        ∃ a t, run x s = (.ok a, t) ∧ run (f a) t = (.error failure, s') := by
  rcases hx : run x s with ⟨_ | a, t⟩
  · rw [run_bind_of_error hx]
    simp
  · rw [run_bind_of_ok hx]
    constructor
    · intro h
      exact .inr ⟨a, t, rfl, h⟩
    · intro hcases
      rcases hcases with heq | ⟨a', t', heq, h⟩
      · cases heq
      · cases heq
        exact h

theorem eq_ok_of_toOption {ε : Type} {result : Except ε α} {a : α}
    (h : result.toOption = some a) : result = .ok a := by
  cases result with
  | error failure => cases h
  | ok b =>
      cases h
      rfl

theorem run_of_toOption {walk : Walk α} {a : α} (h : (walk.run s).1.toOption = some a) :
    walk.run s = (.ok a, (walk.run s).2) :=
  Prod.ext (eq_ok_of_toOption h) rfl

end Walk

/-!
# The order of sessions

A session is below another if the other remembers all its readings.  What else a session holds,
its diagnostics and its count of reads, has no influence on what walks find.
-/

instance : Preorder Session where
  le s t := ∀ key reading, s.cache.get? key = some reading → t.cache.get? key = some reading
  le_refl _ _ _ h := h
  le_trans _ _ _ hst htu key reading h := htu key reading (hst key reading h)

namespace Session

theorem le_of_cache_eq (h : s.cache = t.cache) : s ≤ t := by
  intro key reading hread
  rw [← h]
  exact hread

theorem le_of_cache_put {key : CacheKey} {reading : Reading} (hnew : s.cache.get? key = none)
    (h : t.cache = s.cache.put key reading) : s ≤ t := by
  intro other old hold
  rw [h]
  unfold Cache.get? Cache.put at *
  rw [Table.get?_insert]
  by_cases hkey : key = other
  · rw [hkey, hold] at hnew
    cases hnew
  · rw [if_neg hkey]
    exact hold

theorem get?_of_cache_put {key : CacheKey} {reading : Reading}
    (h : t.cache = s.cache.put key reading) : t.cache.get? key = some reading := by
  rw [h]
  unfold Cache.get? Cache.put
  rw [Table.get?_insert, if_pos rfl]

def HoldsOnly (kind : CacheKey → Reading → Prop) (s : Session) : Prop :=
  ∀ place reading, s.cache.get? place = some reading → kind place reading

variable {kind : CacheKey → Reading → Prop}

theorem holdsOnly_empty (kind : CacheKey → Reading → Prop) : ({} : Session).HoldsOnly kind := by
  intro place reading h
  cases h

theorem HoldsOnly.congr (h : s.HoldsOnly kind) (hcache : t.cache = s.cache) :
    t.HoldsOnly kind := by
  intro place reading hread
  rw [hcache] at hread
  exact h place reading hread

theorem HoldsOnly.put {place : CacheKey} {reading : Reading} (h : s.HoldsOnly kind)
    (hkind : kind place reading) (hcache : t.cache = s.cache.put place reading) :
    t.HoldsOnly kind := by
  intro other known hknown
  rw [hcache] at hknown
  unfold Cache.get? Cache.put at hknown
  rw [Table.get?_insert] at hknown
  split at hknown
  · rename_i hplace
    cases hknown
    exact hplace ▸ hkind
  · exact h other known hknown

end Session

/-!
# Loading

There are three ways for a configuration to be loaded: it is remembered, it is read, or the tree
cannot be read.
-/

def Reading.config? : Reading → Option OwnerConfig
  | .ok config => config
  | .error _ => none

/-- What becomes of a load that has come to a reading; a broken file is a failure. -/
def Reading.outcome (reading : Reading) : Except Failure (Option OwnerConfig) :=
  reading.mapError .brokenConfig

namespace Loader

inductive Loading (tree : Tree) (backend : Backend) (key : ConfigKey) (revision : String)
    (s : Session) : Except Failure (Option OwnerConfig) → Session → Prop
  | remembered {reading : Reading} {t : Session} :
      s.cache.get? (cacheKey backend key revision) = some reading →
      t.cache = s.cache →
      Loading tree backend key revision s (.ok (Reading.config? reading)) t
  | read {reading : Reading} {t : Session} :
      s.cache.get? (cacheKey backend key revision) = none →
      readFresh tree backend key revision = .ok reading →
      t.cache = s.cache.put (cacheKey backend key revision) reading →
      Loading tree backend key revision s (.ok (Reading.config? reading)) t
  | unreadable {failure : Failure} {t : Session} :
      s.cache.get? (cacheKey backend key revision) = none →
      readFresh tree backend key revision = .error failure →
      t.cache = s.cache →
      Loading tree backend key revision s (.error failure) t

variable {backend : Backend} {key : ConfigKey} {revision : String}

theorem run_fetch_of_remembered {reading : Reading}
    (h : s.cache.get? (cacheKey backend key revision) = some reading) :
    (fetch tree backend key revision).run s = (.ok reading, s) := by
  unfold fetch
  dsimp only
  rw [Walk.run_bind_of_ok (Walk.run_get s), h]
  rfl

theorem run_fetch_of_read {reading : Reading}
    (hnew : s.cache.get? (cacheKey backend key revision) = none)
    (hread : readFresh tree backend key revision = .ok reading) :
    (fetch tree backend key revision).run s =
      (.ok reading, { s with
        reads := s.reads + 1
        cache := s.cache.put (cacheKey backend key revision) reading }) := by
  unfold fetch
  dsimp only
  rw [Walk.run_bind_of_ok (Walk.run_get s), hnew, hread]
  rfl

theorem run_fetch_of_unreadable {failure : Failure}
    (hnew : s.cache.get? (cacheKey backend key revision) = none)
    (hread : readFresh tree backend key revision = .error failure) :
    (fetch tree backend key revision).run s =
      (.error failure, { s with reads := s.reads + 1 }) := by
  unfold fetch
  dsimp only
  rw [Walk.run_bind_of_ok (Walk.run_get s), hnew, hread]
  rfl

theorem run_load_of_fetch {reading : Reading}
    (h : (fetch tree backend key revision).run s = (.ok reading, t)) :
    (load tree backend key revision).run s = (reading.outcome, t) := by
  unfold load
  rw [Walk.run_bind_of_ok h]
  cases reading <;> rfl

theorem run_load_of_remembered (tree : Tree) {reading : Reading}
    (h : s.cache.get? (cacheKey backend key revision) = some reading) :
    (load tree backend key revision).run s = (reading.outcome, s) :=
  run_load_of_fetch (run_fetch_of_remembered h)

theorem run_load_of_read {reading : Reading}
    (hnew : s.cache.get? (cacheKey backend key revision) = none)
    (hread : readFresh tree backend key revision = .ok reading) :
    (load tree backend key revision).run s =
      (reading.outcome, { s with
        reads := s.reads + 1
        cache := s.cache.put (cacheKey backend key revision) reading }) :=
  run_load_of_fetch (run_fetch_of_read hnew hread)

theorem run_load_of_unreadable {failure : Failure}
    (hnew : s.cache.get? (cacheKey backend key revision) = none)
    (hread : readFresh tree backend key revision = .error failure) :
    (load tree backend key revision).run s =
      (.error failure, { s with reads := s.reads + 1 }) := by
  unfold load
  exact Walk.run_bind_of_error (run_fetch_of_unreadable hnew hread)

/-- A load answers from the cache, and past it from the tree. -/
theorem run_load_fst (tree : Tree) (backend : Backend) (key : ConfigKey) (revision : String)
    (s : Session) :
    ((load tree backend key revision).run s).1 =
      ((s.cache.get? (cacheKey backend key revision)).elim (readFresh tree backend key revision)
        Except.ok >>= Reading.outcome) := by
  cases hs : s.cache.get? (cacheKey backend key revision) with
  | some reading =>
      rw [run_load_of_remembered tree hs]
      rfl
  | none =>
      cases hread : readFresh tree backend key revision with
      | ok reading =>
          rw [run_load_of_read hs hread]
          rfl
      | error failure =>
          rw [run_load_of_unreadable hs hread]
          rfl

theorem reads_load (tree : Tree) (backend : Backend) (key : ConfigKey) (revision : String)
    (s : Session) :
    ((load tree backend key revision).run s).2.reads =
      s.reads + if (s.cache.get? (cacheKey backend key revision)).isSome then 0 else 1 := by
  cases hs : s.cache.get? (cacheKey backend key revision) with
  | some reading =>
      rw [run_load_of_remembered tree hs]
      rfl
  | none =>
      cases hread : readFresh tree backend key revision with
      | ok reading =>
          rw [run_load_of_read hs hread]
          rfl
      | error failure =>
          rw [run_load_of_unreadable hs hread]
          rfl

theorem get?_load (tree : Tree) (backend : Backend) (key : ConfigKey) (revision : String)
    (s : Session) (place : CacheKey) :
    ((load tree backend key revision).run s).2.cache.get? place =
      (s.cache.get? place).or
        (if cacheKey backend key revision = place then (readFresh tree backend key revision).toOption
        else none) := by
  cases hs : s.cache.get? (cacheKey backend key revision) with
  | some reading =>
      rw [run_load_of_remembered tree hs]
      split
      · rename_i hplace
        rw [← hplace, hs]
        rfl
      · exact Option.or_none.symm
  | none =>
      cases hread : readFresh tree backend key revision with
      | ok reading =>
          rw [run_load_of_read hs hread]
          show (s.cache.put _ _).get? place = _
          unfold Cache.get? Cache.put
          rw [Table.get?_insert]
          split
          · rename_i hplace
            unfold Cache.get? at hs
            rw [← hplace, hs]
            rfl
          · exact Option.or_none.symm
      | error failure =>
          rw [run_load_of_unreadable hs hread]
          split <;> exact Option.or_none.symm

theorem get?_of_load_eq_ok {found : Option OwnerConfig}
    (h : ((load tree backend key revision).run s).1 = .ok found) :
    ((load tree backend key revision).run s).2.cache.get? (cacheKey backend key revision) =
      some (.ok found) := by
  rw [run_load_fst] at h
  rcases except_bind_eq_ok.mp h with ⟨reading, hreading, hfound⟩
  have hanswer : reading = .ok found := except_mapError_eq_ok.mp hfound
  rw [get?_load, if_pos rfl]
  cases hs : s.cache.get? (cacheKey backend key revision) with
  | some known =>
      rw [hs] at hreading
      cases hreading
      rw [hanswer]
      rfl
  | none =>
      rw [hs] at hreading
      change readFresh tree backend key revision = .ok reading at hreading
      rw [hreading, hanswer]
      rfl

theorem run_loadOrSkip_of_fetch {reading : Reading}
    (h : (fetch tree backend key revision).run s = (.ok reading, t)) :
    ∃ t', (loadOrSkip tree backend key revision).run s = (.ok (Reading.config? reading), t') ∧
      t'.cache = t.cache := by
  unfold loadOrSkip
  rw [Walk.run_bind_of_ok h]
  cases reading with
  | ok config => exact ⟨t, rfl, rfl⟩
  | error error => exact ⟨_, rfl, rfl⟩

theorem run_loadOrSkip_of_remembered (tree : Tree) {reading : Reading}
    (h : s.cache.get? (cacheKey backend key revision) = some reading) :
    ∃ t, (loadOrSkip tree backend key revision).run s = (.ok (Reading.config? reading), t) ∧
      t.cache = s.cache :=
  run_loadOrSkip_of_fetch (run_fetch_of_remembered h)

theorem loading_loadOrSkip (tree : Tree) (backend : Backend) (key : ConfigKey) (revision : String)
    (s : Session) :
    Loading tree backend key revision s ((loadOrSkip tree backend key revision).run s).1
      ((loadOrSkip tree backend key revision).run s).2 := by
  cases hs : s.cache.get? (cacheKey backend key revision) with
  | some reading =>
      rcases run_loadOrSkip_of_remembered tree hs with ⟨t, hrun, hcache⟩
      rw [hrun]
      exact .remembered hs hcache
  | none =>
      cases hread : readFresh tree backend key revision with
      | ok reading =>
          rcases run_loadOrSkip_of_fetch (run_fetch_of_read hs hread) with ⟨t, hrun, hcache⟩
          rw [hrun]
          exact .read hs hread hcache
      | error failure =>
          have hrun : (loadOrSkip tree backend key revision).run s =
              (.error failure, { s with reads := s.reads + 1 }) := by
            unfold loadOrSkip
            exact Walk.run_bind_of_error (run_fetch_of_unreadable hs hread)
          rw [hrun]
          exact .unreadable hs hread rfl

theorem loading_of_run {outcome : Except Failure (Option OwnerConfig)}
    (h : (loadOrSkip tree backend key revision).run s = (outcome, t)) :
    Loading tree backend key revision s outcome t := by
  have hload := loading_loadOrSkip tree backend key revision s
  rw [h] at hload
  exact hload

/-- Whatever has been found is remembered. -/
theorem Loading.remembers {config : Option OwnerConfig}
    (h : Loading tree backend key revision s (.ok config) t) :
    ∃ reading, t.cache.get? (cacheKey backend key revision) = some reading ∧
      Reading.config? reading = config := by
  cases h with
  | remembered hknown hcache =>
      refine ⟨_, ?_, rfl⟩
      rw [hcache]
      exact hknown
  | read _ _ hcache =>
      exact ⟨_, Session.get?_of_cache_put hcache, rfl⟩

theorem readFresh_ok_iff :
    (∃ reading, readFresh tree backend key revision = .ok reading) ↔
      ∃ content, tree.contentOf key.project revision (key.filePath backend.fileName) =
        .ok content := by
  unfold readFresh
  cases tree.contentOf key.project revision (key.filePath backend.fileName) with
  | error failure => simp [bind, Except.bind]
  | ok content => cases content <;> simp [bind, Except.bind, pure, Except.pure]

theorem readFresh_congr {tree tree' : Tree}
    (h : tree'.contentOf key.project revision (key.filePath backend.fileName) =
      tree.contentOf key.project revision (key.filePath backend.fileName)) :
    readFresh tree' backend key revision = readFresh tree backend key revision := by
  unfold readFresh
  rw [h]

theorem contentOf_of_readFresh_error {tree : Tree} {failure : Failure}
    (h : readFresh tree backend key revision = .error failure) :
    tree.contentOf key.project revision (key.filePath backend.fileName) = .error failure := by
  unfold readFresh at h
  cases hcontent : tree.contentOf key.project revision (key.filePath backend.fileName) with
  | error failure' =>
      rw [hcontent] at h
      cases h
      rfl
  | ok content =>
      rw [hcontent] at h
      cases content <;> cases h

end Loader

/-!
# Histories

A later session of a history remembers all that an earlier one does, and what it has learned in
between it has read from the tree.
-/

namespace Session

def Knows (s : Session) (key : CacheKey) : Prop := ∃ reading, s.cache.get? key = some reading

theorem Knows.mono {key : CacheKey} (h : s.Knows key) (hle : s ≤ t) : t.Knows key := by
  rcases h with ⟨reading, hread⟩
  exact ⟨reading, hle key reading hread⟩

end Session

namespace Tree

/-- What a file has read as, for some configuration that is kept in it. -/
def ReadsAs (tree : Tree) (place : CacheKey) (reading : Reading) : Prop :=
  ∃ backend key revision, Loader.cacheKey backend key revision = place ∧
    Loader.readFresh tree backend key revision = .ok reading

def CanRead (tree : Tree) (place : CacheKey) : Prop :=
  ∃ content, tree.contentOf place.project place.revision place.filePath = .ok content

theorem ReadsAs.canRead {place : CacheKey} {reading : Reading} (h : tree.ReadsAs place reading) :
    tree.CanRead place := by
  rcases h with ⟨backend, key, revision, rfl, hread⟩
  exact Loader.readFresh_ok_iff.mp ⟨reading, hread⟩

end Tree

namespace Session

structure LeadsTo (tree : Tree) (s t : Session) : Prop where
  keeps : s ≤ t
  learns : ∀ key reading, t.cache.get? key = some reading →
    s.cache.get? key = some reading ∨ tree.ReadsAs key reading

theorem LeadsTo.refl (tree : Tree) (s : Session) : LeadsTo tree s s where
  keeps := le_rfl
  learns _ _ h := .inl h

theorem LeadsTo.trans {u : Session} (hst : LeadsTo tree s t) (htu : LeadsTo tree t u) :
    LeadsTo tree s u where
  keeps := le_trans hst.keeps htu.keeps
  learns key reading h := by
    rcases htu.learns key reading h with hknown | hread
    · exact hst.learns key reading hknown
    · exact .inr hread

theorem LeadsTo.knows_or_canRead {key : CacheKey} (h : LeadsTo tree s t) (hkey : t.Knows key) :
    s.Knows key ∨ tree.CanRead key := by
  rcases hkey with ⟨reading, hknown⟩
  rcases h.learns key reading hknown with hbefore | hread
  · exact .inl ⟨reading, hbefore⟩
  · exact .inr hread.canRead

theorem leadsTo_of_cache_eq (h : t.cache = s.cache) : LeadsTo tree s t where
  keeps := le_of_cache_eq h.symm
  learns _ _ hkey := .inl (le_of_cache_eq h _ _ hkey)

end Session

theorem Loader.Loading.leadsTo {backend : Backend} {key : ConfigKey} {revision : String}
    {outcome : Except Failure (Option OwnerConfig)}
    (h : Loading tree backend key revision s outcome t) : s.LeadsTo tree t := by
  cases h with
  | remembered _ hcache => exact Session.leadsTo_of_cache_eq hcache
  | unreadable _ _ hcache => exact Session.leadsTo_of_cache_eq hcache
  | read hnew hread hcache =>
      rename_i reading
      refine ⟨Session.le_of_cache_put hnew hcache, fun other old hold => ?_⟩
      rw [hcache] at hold
      unfold Cache.get? Cache.put at hold
      rw [Table.get?_insert] at hold
      by_cases hkey : cacheKey backend key revision = other
      · rw [if_pos hkey] at hold
        cases hold
        exact .inr ⟨backend, key, revision, hkey, hread⟩
      · rw [if_neg hkey] at hold
        exact .inl hold

end Ownership
