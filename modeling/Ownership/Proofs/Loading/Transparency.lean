import Mathlib.Data.List.Induction
import Ownership.Proofs.Hierarchy.Sound
import Ownership.Proofs.Tree.Commits

/-!
# The cache does not show

Commits, loads and invalidations may come in any order.  A load answers as if it read the file anew,
although it reads only what no load before it has left in the cache.  Revisions stay as they were
made, so an entry never grows old, and where two keys lead to one place they read it alike.
-/

namespace Ownership

/-- What happens to a tree and to the session in which its configurations are loaded. -/
inductive Event
  | commit (commit : History.Commit)
  | load (backend : Backend) (key : ConfigKey) (revision : String)
  | invalidate (project : Option String)

structure Desk where
  history : History := {}
  session : Session := {}

variable {backend backend' : Backend} {key : ConfigKey} {revision : String}
  {place : CacheKey} {digest : String → String}

/-!
# Invalidations
-/

theorem Cache.get?_invalidate (cache : Cache) (project : Option String) (place : CacheKey) :
    (cache.invalidate project).2.get? place =
      if Cache.covers project place = true then none else cache.get? place := by
  unfold Cache.invalidate Cache.get?
  rw [List.partition_eq_filter_filter]
  show (Table.mk (cache.entries.entries.filter fun entry => !covers project entry.1)).get? place = _
  rw [Table.get?_filter cache.entries fun known => !covers project known]
  cases covers project place <;> rfl

/-!
# Loads in the formats that are always there
-/

/-- The format is one of those that are always there, the key has been checked, and the name of the
file, if there is one, has no slash. -/
structure ProperLoad (backend : Backend) (key : ConfigKey) : Prop where
  builtIn : ∃ id, Registry.builtIn.get id = .ok backend
  checked : ∃ folder, ConfigKey.create key.project key.branch folder key.fileName = .ok key
  name : ∀ name ∈ key.fileName, '/' ∉ name.toList

theorem ProperLoad.plain (h : ProperLoad backend key) : key.IsPlain backend.fileName := by
  rcases h.builtIn with ⟨id, hbackend⟩
  rcases h.checked with ⟨folder, hkey⟩
  refine ConfigKey.isPlain_of_names (ConfigKey.create_eq_ok hkey).2.2.2 ?_ h.name
  rcases fileName_of_builtIn hbackend with hname | hname
  · rw [hname]
    decide
  · rw [hname]
    decide

theorem Registry.eq_of_id {registry : Registry} {id id' : String}
    (h : registry.get id = .ok backend) (h' : registry.get id' = .ok backend')
    (hid : backend.id = backend'.id) : backend = backend' := by
  have hboth := get?_of_get h
  rw [hid, get?_of_get h', Option.some.injEq, Registration.mk.injEq] at hboth
  rcases backend with ⟨_, _, _⟩
  rw [Backend.mk.injEq]
  exact ⟨hid, hboth.1.symm, hboth.2.symm⟩

theorem Reading.alike_outcome {reading other : Reading} (h : reading.unnamed = other.unnamed) :
    Alike SameConfig reading.outcome other.outcome := by
  cases reading with
  | error error =>
      cases other with
      | error error' =>
          cases h
          exact .failed _
      | ok found => cases h
  | ok found =>
      cases other with
      | error error => cases h
      | ok found' => exact .done (Except.ok.inj h)

/-!
# Runs
-/

namespace Desk

variable {events : List Event} {event : Event} {desk : Desk}

def outcome (desk : Desk) (backend : Backend) (key : ConfigKey) (revision : String) :
    Except Failure (Option OwnerConfig) :=
  ((Loader.load desk.history.tree backend key revision).run desk.session).1

/-- The same tree with an empty cache. -/
def forgetful (desk : Desk) : Desk := { desk with session := {} }

def afterCommit (digest : String → String) (desk : Desk) (commit : History.Commit) : Desk :=
  { desk with history := (History.attemptWith digest desk.history commit).2 }

def afterLoad (desk : Desk) (backend : Backend) (key : ConfigKey) (revision : String) : Desk :=
  { desk with
    session := ((Loader.load desk.history.tree backend key revision).run desk.session).2 }

def afterInvalidation (desk : Desk) (project : Option String) : Desk :=
  { desk with
    session := { desk.session with cache := (desk.session.cache.invalidate project).2 } }

def step (digest : String → String) (desk : Desk) : Event → Desk
  | .commit commit => desk.afterCommit digest commit
  | .load backend key revision => desk.afterLoad backend key revision
  | .invalidate project => desk.afterInvalidation project

def after (digest : String → String) (events : List Event) : Desk :=
  events.foldl (step digest) {}

theorem after_append_singleton (digest : String → String) (events : List Event) (event : Event) :
    after digest (events ++ [event]) = step digest (after digest events) event :=
  List.foldl_append

def commitsOf (events : List Event) : List History.Commit :=
  events.filterMap fun
    | .commit commit => some commit
    | _ => none

theorem history_after (digest : String → String) (events : List Event) :
    (after digest events).history = History.historyOf digest (commitsOf events) := by
  induction events using List.reverseRecOn with
  | nil => rfl
  | append_singleton earlier event ih =>
      unfold commitsOf at ih ⊢
      rw [after_append_singleton, List.filterMap_append]
      cases event with
      | commit commit =>
          show (History.attemptWith digest (after digest earlier).history commit).2 = _
          rw [ih]
          exact (History.historyOf_append_singleton digest _ commit).symm
      | load backend key revision =>
          exact ih.trans (congrArg _ (List.append_nil _).symm)
      | invalidate project =>
          exact ih.trans (congrArg _ (List.append_nil _).symm)

/-!
# What is remembered can be read
-/

def Faithful (desk : Desk) : Prop :=
  ∀ place reading, desk.session.cache.get? place = some reading → ∃ backend key revision,
    ProperLoad backend key ∧ Loader.cacheKey backend key revision = place ∧
      Loader.readFresh desk.history.tree backend key revision = .ok reading

theorem Faithful.afterCommit {commits : List History.Commit} {commit : History.Commit}
    (h : desk.Faithful) (hdesk : desk.history = History.historyOf digest commits)
    (hapart : History.KeepsApart digest (commits ++ [commit])) :
    (desk.afterCommit digest commit).Faithful := by
  have hnext : (desk.afterCommit digest commit).history =
      History.historyOf digest (commits ++ [commit]) := by
    rw [History.historyOf_append_singleton, ← hdesk]
    rfl
  intro place reading hknown
  rcases h place reading hknown with ⟨backend, key, revision, hproper, hplace, hread⟩
  refine ⟨backend, key, revision, hproper, hplace, ?_⟩
  rcases Loader.readFresh_ok_iff.mp ⟨reading, hread⟩ with ⟨content, hcontent⟩
  rw [← hread]
  apply Loader.readFresh_congr
  rw [hcontent, hnext]
  rw [hdesk] at hcontent
  exact History.contentOf_append hapart hcontent

theorem Faithful.afterLoad (h : desk.Faithful) (hproper : ProperLoad backend key)
    (revision : String) : (desk.afterLoad backend key revision).Faithful := by
  intro place reading hknown
  unfold Desk.afterLoad at hknown
  rw [Loader.get?_load, Option.or_eq_some_iff] at hknown
  rcases hknown with hbefore | ⟨_, hread⟩
  · exact h place reading hbefore
  · split at hread
    · rename_i hplace
      exact ⟨backend, key, revision, hproper, hplace, Walk.eq_ok_of_toOption hread⟩
    · cases hread

theorem Faithful.afterInvalidation (h : desk.Faithful) (project : Option String) :
    (desk.afterInvalidation project).Faithful := by
  intro place reading hknown
  unfold Desk.afterInvalidation at hknown
  rw [Cache.get?_invalidate] at hknown
  split at hknown
  · cases hknown
  · exact h place reading hknown

theorem faithful_after
    (hproper : ∀ backend key revision, .load backend key revision ∈ events → ProperLoad backend key)
    (hapart : History.KeepsApart digest (commitsOf events)) : (after digest events).Faithful := by
  induction events using List.reverseRecOn with
  | nil =>
      intro place reading hknown
      cases hknown
  | append_singleton earlier event ih =>
      have hcommits : commitsOf (earlier ++ [event]) = commitsOf earlier ++ commitsOf [event] :=
        List.filterMap_append
      rw [hcommits] at hapart
      have hearlier := ih (fun backend key revision hmem =>
        hproper backend key revision (List.mem_append_left _ hmem)) hapart.of_append
      rw [after_append_singleton]
      cases event with
      | commit commit => exact hearlier.afterCommit (history_after digest earlier) hapart
      | load backend key revision =>
          have hmem : .load backend key revision ∈ earlier ++ [.load backend key revision] :=
            List.mem_append_right _ List.mem_cons_self
          exact hearlier.afterLoad (hproper backend key revision hmem) revision
      | invalidate project => exact hearlier.afterInvalidation project

/-- In a faithful desk a load answers as it would with an empty cache. -/
theorem Faithful.alike (h : desk.Faithful) (hproper : ProperLoad backend key)
    (revision : String) :
    Alike SameConfig (desk.outcome backend key revision)
      (desk.forgetful.outcome backend key revision) := by
  unfold outcome forgetful
  rw [Loader.run_load_fst, Loader.run_load_fst]
  show Alike SameConfig _ (Loader.readFresh desk.history.tree backend key revision >>= Reading.outcome)
  cases hknown : desk.session.cache.get? (Loader.cacheKey backend key revision) with
  | none => exact .refl (R := SameConfig) (fun _ => rfl) _
  | some reading =>
      rcases h _ reading hknown with ⟨backend', key', revision', hproper', hplace, hread⟩
      rcases hproper.builtIn with ⟨id, hbackend⟩
      rcases hproper'.builtIn with ⟨id', hbackend'⟩
      rcases Registry.eq_of_id hbackend' hbackend (congrArg CacheKey.backendId hplace)
      have hsame := Loader.readFresh_unnamed hproper'.plain hproper.plain hplace desk.history.tree
      rw [hread] at hsame
      cases hfresh : Loader.readFresh desk.history.tree backend key revision with
      | error failure =>
          rw [hfresh] at hsame
          cases hsame
      | ok reading' =>
          rw [hfresh] at hsame
          exact Reading.alike_outcome (Except.ok.inj hsame)

/-!
# What is stored
-/

end Desk

def Loader.isAnswer : Except Failure (Option OwnerConfig) → Bool
  | .ok _ | .error (.brokenConfig _) => true
  | .error _ => false

theorem Reading.isAnswer_outcome (reading : Reading) : Loader.isAnswer reading.outcome = true := by
  cases reading <;> rfl

namespace Event

def stores (desk : Desk) (place : CacheKey) : Event → Bool
  | .load backend key revision =>
      decide (Loader.cacheKey backend key revision = place) &&
        Loader.isAnswer (desk.outcome backend key revision)
  | _ => false

def drops (place : CacheKey) : Event → Bool
  | .invalidate project => Cache.covers project place
  | _ => false

end Event

namespace Desk

variable {events : List Event} {event : Event} {desk : Desk}

/-- Some load has left an entry at the place, and no invalidation has covered it since. -/
def Stored (digest : String → String) (events : List Event) (place : CacheKey) : Prop :=
  ∃ before event later, events = before ++ event :: later ∧
    event.stores (after digest before) place = true ∧ ∀ next ∈ later, next.drops place = false

theorem stored_append_singleton :
    Stored digest (events ++ [event]) place ↔
      event.stores (after digest events) place = true ∨
        Stored digest events place ∧ event.drops place = false := by
  constructor
  · intro h
    rcases h with ⟨before, storing, later, hevents, hstores, hkept⟩
    rcases List.eq_nil_or_concat later with rfl | ⟨between, last, rfl⟩
    · rcases List.append_inj' hevents rfl with ⟨rfl, hlast⟩
      cases hlast
      exact .inl hstores
    · rw [List.concat_eq_append, ← List.cons_append, ← List.append_assoc] at hevents
      rcases List.append_inj' hevents rfl with ⟨rfl, hlast⟩
      cases hlast
      refine .inr ⟨⟨before, storing, between, rfl, hstores, ?_⟩, ?_⟩
      · intro next hnext
        exact hkept next (by simp [hnext])
      · exact hkept event (by simp)
  · intro h
    rcases h with hstores | ⟨⟨before, storing, later, rfl, hstores, hkept⟩, hlast⟩
    · exact ⟨events, event, [], rfl, hstores, fun next hnext => nomatch hnext⟩
    · refine ⟨before, storing, later ++ [event], by simp, hstores, ?_⟩
      intro next hnext
      rcases List.mem_append.mp hnext with hbetween | hself
      · exact hkept next hbetween
      · rw [List.mem_singleton.mp hself]
        exact hlast

theorem isAnswer_outcome (desk : Desk) (backend : Backend) (key : ConfigKey) (revision : String) :
    Loader.isAnswer (desk.outcome backend key revision) =
      ((desk.session.cache.get? (Loader.cacheKey backend key revision)).isSome ||
        (Loader.readFresh desk.history.tree backend key revision).toOption.isSome) := by
  unfold outcome
  rw [Loader.run_load_fst]
  cases desk.session.cache.get? (Loader.cacheKey backend key revision) with
  | some reading => exact reading.isAnswer_outcome
  | none =>
      cases hread : Loader.readFresh desk.history.tree backend key revision with
      | ok reading => exact reading.isAnswer_outcome
      | error failure =>
          rcases History.failure_of_contentOf (Loader.contentOf_of_readFresh_error hread) with
            ⟨error, rfl⟩ | ⟨error, rfl⟩
          · rfl
          · rfl

/-- A load that is no answer has failed to read the tree, and nothing is remembered of it. -/
theorem cache_of_not_isAnswer
    (h : Loader.isAnswer (desk.outcome backend key revision) = false) :
    ((∃ error, desk.outcome backend key revision = .error (.tree error)) ∨
      ∃ error, desk.outcome backend key revision = .error (.path error)) ∧
    (desk.afterLoad backend key revision).session.cache = desk.session.cache := by
  rw [isAnswer_outcome, Bool.or_eq_false_iff, Option.isSome_eq_false_iff,
    Option.isSome_eq_false_iff, Option.isNone_iff_eq_none, Option.isNone_iff_eq_none] at h
  rcases h with ⟨hnew, hread⟩
  cases hfresh : Loader.readFresh desk.history.tree backend key revision with
  | ok reading =>
      rw [hfresh] at hread
      cases hread
  | error failure =>
      have hrun := Loader.run_load_of_unreadable hnew hfresh
      unfold outcome afterLoad
      rw [hrun]
      refine ⟨?_, rfl⟩
      rcases History.failure_of_contentOf (Loader.contentOf_of_readFresh_error hfresh) with
        ⟨error, rfl⟩ | ⟨error, rfl⟩
      · exact .inl ⟨error, rfl⟩
      · exact .inr ⟨error, rfl⟩

theorem isSome_get?_step (digest : String → String) (desk : Desk) (event : Event)
    (place : CacheKey) :
    ((step digest desk event).session.cache.get? place).isSome =
      (event.stores desk place ||
        (desk.session.cache.get? place).isSome && !event.drops place) := by
  cases event with
  | commit commit =>
      show _ = (false || (desk.session.cache.get? place).isSome && true)
      rw [Bool.false_or, Bool.and_true]
      rfl
  | load backend key revision =>
      show (((Loader.load _ _ _ _).run _).2.cache.get? place).isSome =
        (decide (Loader.cacheKey backend key revision = place) && Loader.isAnswer _ ||
          (desk.session.cache.get? place).isSome && true)
      rw [Loader.get?_load, Option.isSome_or, isAnswer_outcome, Bool.and_true]
      by_cases hplace : Loader.cacheKey backend key revision = place
      · rw [if_pos hplace, decide_eq_true hplace, hplace, Bool.true_and]
        cases (desk.session.cache.get? place).isSome <;> simp
      · rw [if_neg hplace, decide_eq_false hplace, Bool.false_and, Bool.false_or]
        exact Bool.or_false _
  | invalidate project =>
      show ((desk.session.cache.invalidate project).2.get? place).isSome =
        (false || (desk.session.cache.get? place).isSome && !Cache.covers project place)
      rw [Cache.get?_invalidate, Bool.false_or]
      cases Cache.covers project place with
      | true => exact (Bool.and_false _).symm
      | false => exact (Bool.and_true _).symm

theorem isSome_get?_after (digest : String → String) (events : List Event) (place : CacheKey) :
    ((after digest events).session.cache.get? place).isSome = true ↔
      Stored digest events place := by
  induction events using List.reverseRecOn with
  | nil =>
      refine iff_of_false Bool.false_ne_true fun h => ?_
      rcases h with ⟨before, event, later, hevents, _⟩
      cases before <;> cases hevents
  | append_singleton earlier event ih =>
      rw [after_append_singleton, isSome_get?_step, stored_append_singleton, ← ih, Bool.or_eq_true,
        Bool.and_eq_true, Bool.not_eq_true']

/-!
# Transparency
-/

/-- The cache of a desk cannot be told from an empty one by what is loaded, only by how often the tree
is read.  A load reads it unless an entry is stored for its place, and leaves the cache as it is if it
fails to.  To invalidate a project drops the entries of this project and no others. -/
structure Transparent (desk : Desk) (stored : CacheKey → Prop) : Prop where
  outcome : ∀ backend key revision, ProperLoad backend key →
    Alike SameConfig (desk.outcome backend key revision)
      (desk.forgetful.outcome backend key revision)
  reads : ∀ backend key revision,
    ((desk.afterLoad backend key revision).session.reads = desk.session.reads + 1 ↔
      ¬ stored (Loader.cacheKey backend key revision)) ∧
    ((desk.afterLoad backend key revision).session.reads = desk.session.reads ↔
      stored (Loader.cacheKey backend key revision))
  unanswered : ∀ backend key revision,
    Loader.isAnswer (desk.outcome backend key revision) = false →
      ((∃ error, desk.outcome backend key revision = .error (.tree error)) ∨
        ∃ error, desk.outcome backend key revision = .error (.path error)) ∧
      (desk.afterLoad backend key revision).session.cache = desk.session.cache
  invalidated : ∀ project place, (desk.afterInvalidation project).session.cache.get? place =
    if Cache.covers project place = true then none else desk.session.cache.get? place

/-- Whatever has happened, in whatever order, as long as the digest keeps apart what it is taken
of. -/
theorem transparent_after
    (hproper : ∀ backend key revision, .load backend key revision ∈ events → ProperLoad backend key)
    (hapart : History.KeepsApart digest (commitsOf events)) :
    (after digest events).Transparent (Stored digest events) where
  outcome _ _ revision hload := (faithful_after hproper hapart).alike hload revision
  reads backend key revision := by
    unfold afterLoad
    rw [← isSome_get?_after, Loader.reads_load]
    cases ((after digest events).session.cache.get?
      (Loader.cacheKey backend key revision)).isSome <;> simp
  unanswered _ _ _ := cache_of_not_isAnswer
  invalidated := (after digest events).session.cache.get?_invalidate

/-!
# A shop

A file is loaded, and deleted by a later commit.  It is still stored for its revision, and it can be
asked for with its name as well.
-/

def lineBackend : Backend := { id := "find-owners", format := .lines, fileName := "OWNERS" }

def shopKey (fileName : Option String) : ConfigKey where
  project := "shop"
  branch := "main"
  fileName := fileName

def shopRevision : String := Text.fingerprint "shop|main|1"

def shopEvents : List Event := [
  .commit { project := "shop", branch := "main"
            files := ⟨[("/OWNERS", some "ann@shop\n".toUTF8.toList)]⟩ },
  .load lineBackend (shopKey none) shopRevision,
  .invalidate (some "bakery"),
  .commit { project := "shop", branch := "main", files := ⟨[("/OWNERS", none)]⟩ }]

theorem shop_properLoad {fileName : Option String} (h : ∀ name ∈ fileName, '/' ∉ name.toList) :
    ProperLoad lineBackend (shopKey fileName) := by
  have hbackend : (Registry.builtIn.get "find-owners").toOption = some lineBackend := by
    decide +kernel
  have hfolder : (Path.normalizeFolder "/").toOption = some "/" := by decide +kernel
  refine ⟨⟨"find-owners", Walk.eq_ok_of_toOption hbackend⟩, ⟨"/", ?_⟩, h⟩
  unfold ConfigKey.create
  rw [Walk.eq_ok_of_toOption hfolder]
  rfl

theorem shop_transparent :
    (after Text.fingerprint shopEvents).Transparent (Stored Text.fingerprint shopEvents) ∧
      (after Text.fingerprint shopEvents).session.reads = 1 ∧
      Stored Text.fingerprint shopEvents
        (Loader.cacheKey lineBackend (shopKey (some "OWNERS")) shopRevision) := by
  have hproper : ∀ backend key revision, .load backend key revision ∈ shopEvents →
      ProperLoad backend key := by
    intro backend key revision hmem
    simp only [shopEvents, List.mem_cons, reduceCtorEq, false_or, List.not_mem_nil, or_false,
      Event.load.injEq] at hmem
    rcases hmem with ⟨rfl, rfl, _⟩
    exact shop_properLoad fun name hname => nomatch hname
  have hapart : History.KeepsApart Text.fingerprint (commitsOf shopEvents) := by
    unfold History.KeepsApart
    decide +kernel
  have htransparent := transparent_after hproper hapart
  refine ⟨htransparent, by decide +kernel, ?_⟩
  apply (htransparent.reads lineBackend (shopKey (some "OWNERS")) shopRevision).2.mp
  decide +kernel

end Desk
end Ownership
