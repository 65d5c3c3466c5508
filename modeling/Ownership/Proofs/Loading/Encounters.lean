import Ownership.Proofs.Recall
import Ownership.Proofs.Tables
import Ownership.Proofs.Text.Pieces

/-!
# What walks meet

A walk meets a file whenever it loads a configuration, and what it is told about the file is either
fresh or remembered.  The broken files among those that it has met are noted, each under its own
place.
-/

namespace Ownership

variable {tree : Tree} {α : Type} {s t : Session}

/-!
# Files
-/

/-- A configuration file of a branch, at whatever revision. -/
structure ConfigFile where
  project : String
  branch : String
  path : String
deriving DecidableEq, Repr

def ConfigFile.text (file : ConfigFile) : String :=
  file.project ++ ":" ++ file.branch ++ ":" ++ file.path

def ColonFree (project branch : String) : Prop := ':' ∉ project.toList ∧ ':' ∉ branch.toList

instance (project branch : String) : Decidable (ColonFree project branch) :=
  inferInstanceAs (Decidable (_ ∧ _))

theorem ConfigFile.eq_of_text {file other : ConfigFile} (h : ColonFree file.project file.branch)
    (hother : ColonFree other.project other.branch) (htext : file.text = other.text) :
    file = other := by
  have hletters : ∀ file : ConfigFile, file.text.toList =
      file.project.toList ++ ':' :: (file.branch.toList ++ ':' :: file.path.toList) := by
    intro file
    unfold ConfigFile.text
    simp
  have hwhole := congrArg String.toList htext
  rw [hletters, hletters] at hwhole
  rcases Text.append_separator_inj h.1 hother.1 hwhole with ⟨hproject, hrest⟩
  rcases Text.append_separator_inj h.2 hother.2 hrest with ⟨hbranch, hpath⟩
  rcases file with ⟨project, branch, path⟩
  rcases other with ⟨project', branch', path'⟩
  rw [ConfigFile.mk.injEq]
  exact ⟨String.toList_inj.mp hproject, String.toList_inj.mp hbranch, String.toList_inj.mp hpath⟩

/-- A file that was asked for, and what was told about it. -/
structure Met where
  backend : Backend
  key : ConfigKey
  revision : String
  reading : Reading

namespace Met

def file (met : Met) : ConfigFile where
  project := met.key.project
  branch := met.key.branch
  path := met.key.filePath met.backend.fileName

def place (met : Met) : CacheKey := Loader.cacheKey met.backend met.key met.revision

def error? (met : Met) : Option BrokenConfig :=
  match met.reading with
  | .ok _ => none
  | .error error => some error

theorem error?_eq_some_iff {met : Met} {error : BrokenConfig} :
    met.error? = some error ↔ met.reading = .error error := by
  unfold error?
  cases met.reading with
  | ok config => simp
  | error other => simp

def note (diagnostics : Table String String) (met : Met) : Table String String :=
  match met.error? with
  | none => diagnostics
  | some error => diagnostics.insert (Loader.brokenPlace met.key error) error.describe

end Met

namespace Loader

variable {backend : Backend} {key : ConfigKey} {revision : String} {reading : Reading}

/-- Asking for a file notes nothing, and who is told something can find it in the session from then
on. -/
theorem session_of_fetch {outcome : Except Failure Reading}
    (h : (fetch tree backend key revision).run s = (outcome, t)) :
    t.diagnostics = s.diagnostics ∧
      ∀ reading, outcome = .ok reading →
        t.cache.get? (cacheKey backend key revision) = some reading := by
  cases hs : s.cache.get? (cacheKey backend key revision) with
  | some known =>
      rw [run_fetch_of_remembered hs] at h
      cases h
      exact ⟨rfl, fun reading hsame => Except.ok.inj hsame ▸ hs⟩
  | none =>
      cases hread : readFresh tree backend key revision with
      | ok fresh =>
          rw [run_fetch_of_read hs hread] at h
          cases h
          exact ⟨rfl, fun reading hsame => Except.ok.inj hsame ▸ Session.get?_of_cache_put rfl⟩
      | error failure =>
          rw [run_fetch_of_unreadable hs hread] at h
          cases h
          exact ⟨rfl, fun reading hsame => by cases hsame⟩

theorem diagnostics_loadOrSkip (h : (fetch tree backend key revision).run s = (.ok reading, t)) :
    ((loadOrSkip tree backend key revision).run s).2.diagnostics =
      Met.note s.diagnostics ⟨backend, key, revision, reading⟩ := by
  rw [← (session_of_fetch h).1]
  unfold loadOrSkip
  rw [Walk.run_bind_of_ok h]
  cases reading <;> rfl

theorem diagnostics_of_unreadable {failure : Failure}
    (h : (loadOrSkip tree backend key revision).run s = (.error failure, t)) :
    t.diagnostics = s.diagnostics := by
  rcases hfetch : (fetch tree backend key revision).run s with ⟨_ | reading, mid⟩
  · unfold loadOrSkip at h
    rw [Walk.run_bind_of_error hfetch] at h
    cases h
    exact (session_of_fetch hfetch).1
  · rcases run_loadOrSkip_of_fetch hfetch with ⟨other, hrun, _⟩
    rw [hrun] at h
    cases h

end Loader

/-!
# Broken files

The broken files that were met, in order, and what was last told about each.
-/

namespace Met

variable {met : List Met} {file : ConfigFile}

def failures (met : List Met) : List (ConfigFile × BrokenConfig) :=
  met.filterMap fun encounter => encounter.error?.map fun error => (encounter.file, error)

def brokenFiles (met : List Met) : List ConfigFile := ((failures met).map Prod.fst).eraseDups

def latestError? (met : List Met) (file : ConfigFile) : Option BrokenConfig :=
  ((failures met).reverse.find? fun failure => failure.1 = file).map Prod.snd

def messages (met : List Met) : Table ConfigFile String :=
  Table.ofList ((failures met).map fun failure => (failure.1, failure.2.describe))

theorem mem_brokenFiles_iff : file ∈ brokenFiles met ↔
    ∃ encounter ∈ met, encounter.file = file ∧ ∃ error, encounter.reading = .error error := by
  unfold brokenFiles failures
  simp only [List.mem_eraseDups, List.mem_map, List.mem_filterMap, Option.map_eq_some_iff,
    Met.error?_eq_some_iff]
  constructor
  · intro h
    rcases h with ⟨_, ⟨encounter, hmem, error, herror, rfl⟩, rfl⟩
    exact ⟨encounter, hmem, rfl, error, herror⟩
  · intro h
    rcases h with ⟨encounter, hmem, rfl, error, herror⟩
    exact ⟨_, ⟨encounter, hmem, error, herror, rfl⟩, rfl⟩

theorem keys_messages (met : List Met) : (messages met).keys = brokenFiles met := by
  unfold messages brokenFiles
  rw [Table.keys_ofList, List.map_map]
  rfl

theorem get?_messages (met : List Met) (file : ConfigFile) :
    (messages met).get? file = (latestError? met file).map BrokenConfig.describe := by
  unfold messages latestError?
  rw [Table.get?_ofList, ← List.map_reverse, List.find?_map, Option.map_map, Option.map_map]
  rfl

theorem messages_append_of_sound {last : Met} (h : last.error? = none) :
    messages (met ++ [last]) = messages met := by
  unfold messages failures
  simp [h]

theorem messages_append_of_broken {last : Met} {error : BrokenConfig} (h : last.error? = some error) :
    messages (met ++ [last]) = (messages met).insert last.file error.describe := by
  have hfailures : failures (met ++ [last]) = failures met ++ [(last.file, error)] := by
    unfold failures
    simp [h]
  unfold messages
  rw [hfailures, List.map_append, List.map_singleton, Table.ofList_append_singleton]

/-- A file without colons in its project and its branch, with its place told if it is broken. -/
structure IsPlain (met : Met) : Prop where
  names : ColonFree met.key.project met.key.branch
  place : ∀ error, met.reading = .error error → error.filePath = some met.place.filePath

theorem notes_eq (h : ∀ encounter ∈ met, encounter.IsPlain) :
    met.foldl Met.note {} = (messages met).rename ConfigFile.text := by
  induction met using List.reverseRecOn with
  | nil => rfl
  | append_singleton earlier last ih =>
      have hlast := h last (by simp)
      rw [List.foldl_append, ih fun encounter hmem => h encounter (List.mem_append_left _ hmem)]
      change Met.note _ last = _
      unfold Met.note
      cases herror : last.error? with
      | none => rw [messages_append_of_sound herror]
      | some error =>
          have htext : Loader.brokenPlace last.key error = last.file.text := by
            unfold Loader.brokenPlace
            rw [hlast.place error (Met.error?_eq_some_iff.mp herror)]
            rfl
          have happart : ∀ other ∈ (messages earlier).keys,
              other.text = last.file.text → other = last.file := by
            intro other hother hsame
            rw [keys_messages] at hother
            rcases mem_brokenFiles_iff.mp hother with ⟨encounter, hmem, rfl, _⟩
            have hnames := (h encounter (List.mem_append_left _ hmem)).names
            exact ConfigFile.eq_of_text hnames hlast.names hsame
          dsimp only
          rw [messages_append_of_broken herror, Table.rename_insert happart, htext]

end Met

/-!
# Walks
-/

namespace Walk

/-- The files that a walk meets from some session on, in order. -/
inductive Meets (tree : Tree) : Walk α → Session → List Met → Prop
  | done (a : α) (s : Session) : Meets tree (pure a) s []
  | fail (failure : Failure) (s : Session) : Meets tree (throw failure) s []
  /-- The tree does not give the file, which ends the walk. -/
  | unreadable {backend : Backend} {key : ConfigKey} {revision : String}
      {next : Option OwnerConfig → Walk α} {s t : Session} {failure : Failure} :
      (Loader.loadOrSkip tree backend key revision).run s = (.error failure, t) →
      Meets tree (Loader.loadOrSkip tree backend key revision >>= next) s []
  /-- The walk is told something about a file, fresh or remembered, and goes on with it. -/
  | load {backend : Backend} {key : ConfigKey} {revision : String}
      {next : Option OwnerConfig → Walk α} {s t mid : Session} {reading : Reading}
      {met : List Met} :
      (Loader.fetch tree backend key revision).run s = (.ok reading, mid) →
      (Loader.loadOrSkip tree backend key revision).run s = (.ok (Reading.config? reading), t) →
      Meets tree (next (Reading.config? reading)) t met →
      Meets tree (Loader.loadOrSkip tree backend key revision >>= next) s
        (⟨backend, key, revision, reading⟩ :: met)

theorem Loads.meets {walk : Walk α} (h : Loads tree walk) (s : Session) :
    ∃ met, Meets tree walk s met := by
  induction h generalizing s with
  | done a => exact ⟨[], .done a s⟩
  | fail failure => exact ⟨[], .fail failure s⟩
  | load backend key revision next _ ih =>
      rcases hfetch : (Loader.fetch tree backend key revision).run s with ⟨failure | reading, mid⟩
      · have hload : (Loader.loadOrSkip tree backend key revision).run s = (.error failure, mid) := by
          unfold Loader.loadOrSkip
          exact run_bind_of_error hfetch
        exact ⟨[], .unreadable hload⟩
      · rcases Loader.run_loadOrSkip_of_fetch hfetch with ⟨t, hload, _⟩
        rcases ih (Reading.config? reading) t with ⟨met, hmet⟩
        exact ⟨_, .load hfetch hload hmet⟩

variable {walk : Walk α} {met : List Met}

theorem Meets.keeps (h : Meets tree walk s met) : s ≤ (walk.run s).2 := by
  induction h with
  | done => exact le_rfl
  | fail => exact le_rfl
  | unreadable hload =>
      rw [run_bind_of_error hload]
      exact (Loader.loading_of_run hload).leadsTo.keeps
  | load _ hload _ ih =>
      rw [run_bind_of_ok hload]
      exact le_trans (Loader.loading_of_run hload).leadsTo.keeps ih

theorem Meets.diagnostics (h : Meets tree walk s met) :
    (walk.run s).2.diagnostics = met.foldl Met.note s.diagnostics := by
  induction h with
  | done => rfl
  | fail => rfl
  | unreadable hload =>
      rw [run_bind_of_error hload]
      exact Loader.diagnostics_of_unreadable hload
  | load hfetch hload _ ih =>
      rw [run_bind_of_ok hload, ih, List.foldl_cons, ← Loader.diagnostics_loadOrSkip hfetch, hload]

theorem Meets.remembers (h : Meets tree walk s met) :
    ∀ encounter ∈ met, (walk.run s).2.cache.get? encounter.place = some encounter.reading := by
  induction h with
  | done => simp
  | fail => simp
  | unreadable => simp
  | load hfetch hload hrest ih =>
      rw [run_bind_of_ok hload]
      intro encounter hmem
      rcases List.mem_cons.mp hmem with rfl | hmem
      · apply hrest.keeps
        rcases Loader.run_loadOrSkip_of_fetch hfetch with ⟨t, hagain, hcache⟩
        rw [hload] at hagain
        cases hagain
        rw [hcache]
        exact (Loader.session_of_fetch hfetch).2 _ rfl
      · exact ih encounter hmem

end Walk
end Ownership
