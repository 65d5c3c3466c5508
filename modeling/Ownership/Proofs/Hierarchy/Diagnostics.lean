import Ownership.Proofs.Climb
import Ownership.Proofs.Hierarchy.Agreement
import Ownership.Proofs.Imports.Targets
import Ownership.Proofs.Imports.Trails
import Ownership.Proofs.LineFormat.RoundTrip
import Ownership.Proofs.Loading.Encounters
import Ownership.Proofs.Tree.Revisions

/-!
# Broken files over many walks

A session notes every broken file that one of its walks has met, under the project, the branch and
the path of the file with colons between them.  Names without colons keep the files apart, and none
but such names come in by imports, since in the line of an import a colon ends a name.
-/

namespace Ownership

open Walk

variable {α β : Type} {tree : Tree} {s t : Session}

/-!
# Imports without colons
-/

structure Import.ColonFree (imp : Import) : Prop where
  project : ∀ name ∈ imp.project, ':' ∉ name.toList
  branch : ∀ name ∈ imp.branch, ':' ∉ name.toList

structure OwnerConfig.ColonFree (config : OwnerConfig) : Prop where
  key : Ownership.ColonFree config.key.project config.key.branch
  imports : ∀ imp ∈ config.imports, imp.ColonFree

/-!
# Readings
-/

namespace Loader

variable {backend : Backend} {key : ConfigKey} {content : Content} {config : OwnerConfig}
  {revision : String} {error : BrokenConfig}

theorem colonFree_imports_of_readContent (h : readContent backend key content = .ok (some config)) :
    ∀ imp ∈ config.imports, imp.ColonFree := by
  intro imp himp
  rcases readContent_eq_some h with ⟨text, rfl⟩ | ⟨text, hblocks⟩
  · have hread := (LineFormat.readable_gather key.folder text.toList).imports imp
      (List.mem_mergeSort.mp himp)
    exact ⟨fun name hname hcolon => ((hread.project name hname).free ':' hcolon).2.2 rfl,
      fun name hname hcolon => ((hread.branch name hname).free ':' hcolon).2.2 rfl⟩
  · rw [(BlockFormat.plain_of_read hblocks).2.1] at himp
    cases himp

theorem filePath_of_readContent (h : readContent backend key content = .error error) :
    error.filePath = some (key.filePath backend.fileName) := by
  unfold readContent at h
  dsimp only at h
  split at h
  · cases h
    rfl
  · split at h
    · cases h
      rfl
    · cases h

end Loader

namespace Tree.ReadsAs

variable {place : CacheKey} {config : OwnerConfig} {error : BrokenConfig}

theorem exists_content {reading : Reading} (h : tree.ReadsAs place reading) :
    ∃ backend key revision, Loader.cacheKey backend key revision = place ∧
      (reading = .ok none ∨ ∃ content, Loader.readContent backend key content = reading) := by
  rcases h with ⟨backend, key, revision, hplace, hread⟩
  refine ⟨backend, key, revision, hplace, ?_⟩
  rcases except_bind_eq_ok.mp hread with ⟨content?, _, hcontent⟩
  cases content? with
  | none =>
      cases hcontent
      exact .inl rfl
  | some content => exact .inr ⟨content, Except.ok.inj hcontent⟩

theorem filePath (h : tree.ReadsAs place (.error error)) : error.filePath = some place.filePath := by
  rcases h.exists_content with ⟨backend, key, revision, rfl, hmissing | ⟨content, hread⟩⟩
  · cases hmissing
  · exact Loader.filePath_of_readContent hread

theorem colonFree (h : tree.ReadsAs place (.ok (some config)))
    (hplace : ColonFree place.project place.branch) : config.ColonFree := by
  rcases h.exists_content with ⟨backend, key, revision, rfl, hmissing | ⟨content, hread⟩⟩
  · cases hmissing
  · refine ⟨?_, Loader.colonFree_imports_of_readContent hread⟩
    rw [Loader.key_of_readContent hread]
    exact hplace

end Tree.ReadsAs

def Session.ColonFree (s : Session) : Prop :=
  s.HoldsOnly fun place reading =>
    Ownership.ColonFree place.project place.branch ∧ ∃ tree : Tree, tree.ReadsAs place reading

theorem Session.colonFree_empty : ({} : Session).ColonFree := holdsOnly_empty _

/-!
# Steps
-/

namespace Walk

/-- The walk remembers nothing with a colon in its project or branch, and what it comes to has some
property. -/
def KeepsColonFree (Q : α → Prop) (walk : Walk α) : Prop :=
  ∀ s outcome t, s.ColonFree → walk.run s = (outcome, t) →
    t.ColonFree ∧ ∀ a, outcome = .ok a → Q a

variable {Q : α → Prop} {P : β → Prop}

theorem keepsColonFree_pure {a : α} (h : Q a) : KeepsColonFree Q (pure a) := by
  intro s outcome t hs hrun
  cases hrun
  exact ⟨hs, fun b hb => Except.ok.inj hb ▸ h⟩

theorem keepsColonFree_liftExcept {result : Except Failure α} (h : ∀ a, result = .ok a → Q a) :
    KeepsColonFree Q (liftExcept result) := by
  intro s outcome t hs hrun
  rw [run_liftExcept] at hrun
  cases hrun
  exact ⟨hs, h⟩

theorem KeepsColonFree.bind {x : Walk α} {f : α → Walk β} (hx : KeepsColonFree Q x)
    (hf : ∀ a, Q a → KeepsColonFree P (f a)) : KeepsColonFree P (x >>= f) := by
  intro s outcome t hs hrun
  rcases hfirst : x.run s with ⟨failure | a, mid⟩
  · rw [run_bind_of_error hfirst] at hrun
    cases hrun
    exact ⟨(hx s _ _ hs hfirst).1, fun b hb => by cases hb⟩
  · rw [run_bind_of_ok hfirst] at hrun
    rcases hx s _ _ hs hfirst with ⟨hmid, ha⟩
    exact hf a (ha a rfl) mid outcome t hmid hrun

theorem keepsColonFree_loadOrSkip (tree : Tree) (backend : Backend) {key : ConfigKey}
    (hkey : ColonFree key.project key.branch) (revision : String) :
    KeepsColonFree (fun found => ∀ config ∈ found, config.ColonFree)
      (Loader.loadOrSkip tree backend key revision) := by
  have hfound : ∀ reading : Reading, (∃ tree : Tree,
      tree.ReadsAs (Loader.cacheKey backend key revision) reading) →
        ∀ config ∈ Reading.config? reading, config.ColonFree := by
    intro reading hread config hconfig
    rcases hread with ⟨origin, hread⟩
    cases reading with
    | error error => cases hconfig
    | ok config? =>
        cases hconfig
        exact hread.colonFree hkey
  intro s outcome t hs hrun
  cases Loader.loading_of_run hrun with
  | remembered hknown hcache =>
      refine ⟨hs.congr hcache, fun found hsame => ?_⟩
      cases hsame
      exact hfound _ (hs _ _ hknown).2
  | read _ hread hcache =>
      have hreads : tree.ReadsAs (Loader.cacheKey backend key revision) _ :=
        ⟨backend, key, revision, rfl, hread⟩
      refine ⟨hs.put ⟨hkey, tree, hreads⟩ hcache, fun found hsame => ?_⟩
      cases hsame
      exact hfound _ ⟨tree, hreads⟩
  | unreadable _ _ hcache => exact ⟨hs.congr hcache, fun found hsame => by cases hsame⟩

end Walk

/-!
# Imports and climbs
-/

namespace Hierarchy

variable {site : Site}

structure Pending.ColonFree (pending : Pending) : Prop where
  imp : pending.imp.ColonFree
  importer : Ownership.ColonFree pending.importer.project pending.importer.branch

theorem Pending.ColonFree.target {pending : Pending} (h : pending.ColonFree) :
    Ownership.ColonFree pending.project pending.branch := by
  have hname : ∀ (named : Option String) (own : String), (∀ name ∈ named, ':' ∉ name.toList) →
      ':' ∉ own.toList → ':' ∉ ((Text.nonempty? named).getD own).toList := by
    intro named own hnamed hown
    cases hchoice : Text.nonempty? named with
    | none => exact hown
    | some name => exact hnamed name (Option.filter_eq_some_iff.mp hchoice).1
  exact ⟨hname _ _ h.imp.project h.importer.1, hname _ _ h.imp.branch h.importer.2⟩

theorem keepsColonFree_loadImport {pending : Pending} (h : pending.ColonFree) :
    KeepsColonFree (fun found => ∀ target ∈ found, target.1.ColonFree)
      (loadImport site pending) := by
  unfold loadImport
  apply KeepsColonFree.bind (keepsColonFree_liftExcept fun _ _ => trivial)
  intro head? _
  cases head? with
  | none => exact keepsColonFree_pure fun target htarget => by cases htarget
  | some revision =>
      apply KeepsColonFree.bind (keepsColonFree_liftExcept fun _ hkey => hkey)
      intro key hkey
      rcases importKey_eq_ok hkey with ⟨hproject, hbranch, -, -⟩
      have hplace : ColonFree key.project key.branch := by
        rw [hproject, hbranch]
        exact h.target
      apply KeepsColonFree.bind (keepsColonFree_liftExcept fun _ _ => trivial)
      intro backend _
      apply (keepsColonFree_loadOrSkip site.tree backend hplace revision).bind
      intro found hfound
      apply keepsColonFree_pure
      intro target htarget
      rcases Option.map_eq_some_iff.mp htarget with ⟨config, hconfig, rfl⟩
      exact hfound config hconfig

theorem colonFree_of_nextImports {config : OwnerConfig} (h : config.ColonFree)
    (scope : ImportScope) (revision : String) :
    ∀ pending ∈ nextImports scope config revision, pending.ColonFree := by
  intro pending hpending
  rcases List.mem_map.mp hpending with ⟨imp, himp, rfl⟩
  exact ⟨⟨(h.imports imp himp).project, (h.imports imp himp).branch⟩, h.key⟩

theorem keepsColonFree_followRound {round : List Pending}
    (h : ∀ pending ∈ round, pending.ColonFree) (expansion : Expansion) :
    KeepsColonFree (fun gathered => ∀ pending ∈ gathered.2, pending.ColonFree)
      (followRound site expansion round) := by
  induction round generalizing expansion with
  | nil => exact keepsColonFree_pure fun pending hpending => by cases hpending
  | cons pending rest ih =>
      have hrest := ih fun other hother => h other (List.mem_cons_of_mem pending hother)
      rw [followRound_cons]
      apply (keepsColonFree_loadImport (h pending List.mem_cons_self)).bind
      intro found hfound
      cases found with
      | none => exact hrest expansion
      | some target =>
          apply (hrest _).bind
          intro gathered hgathered
          apply keepsColonFree_pure
          intro later hlater
          rcases List.mem_append.mp hlater with hnext | hother
          · exact colonFree_of_nextImports (hfound target rfl) _ _ later hnext
          · exact hgathered later hother

theorem keepsColonFree_followRounds {round : List Pending}
    (h : ∀ pending ∈ round, pending.ColonFree) (expansion : Expansion) (rounds : Nat) :
    KeepsColonFree (fun _ => True) (followRounds site expansion round rounds) := by
  induction rounds generalizing expansion round with
  | zero => exact keepsColonFree_pure trivial
  | succ rounds ih =>
      unfold followRounds
      split
      · exact keepsColonFree_pure trivial
      · apply (keepsColonFree_followRound h expansion).bind
        intro gathered hgathered
        exact ih hgathered gathered.1

theorem keepsColonFree_expandImports {config : OwnerConfig} (h : config.ColonFree)
    (revision : String) (depth : Nat) :
    KeepsColonFree (fun _ => True) (expandImports site config revision depth) := by
  unfold expandImports
  split
  · exact keepsColonFree_pure trivial
  · apply KeepsColonFree.bind
    · exact keepsColonFree_followRounds (colonFree_of_nextImports h .everything revision) _ depth
    · intro _ _
      exact keepsColonFree_pure trivial

theorem keepsColonFree_levelAt? {climb : Climb} (h : ColonFree climb.project climb.branch)
    (folder : String) (distance : Nat) :
    KeepsColonFree (fun _ => True) (levelAt? site climb folder distance) := by
  rw [levelAt?_eq]
  apply KeepsColonFree.bind (keepsColonFree_liftExcept fun _ hkey => hkey)
  intro key hkey
  have hplace : ColonFree key.project key.branch := by
    rw [(folderKey_eq_ok hkey).1, (folderKey_eq_ok hkey).2.1]
    exact h
  apply (keepsColonFree_loadOrSkip site.tree climb.backend hplace climb.revision).bind
  intro found hfound
  cases found with
  | none => exact keepsColonFree_pure trivial
  | some config =>
      apply (keepsColonFree_expandImports (hfound config rfl) _ _).bind
      intro _ _
      exact keepsColonFree_pure trivial

section

variable {visit : β → Level → Walk (ForInStep β)}
  (hvisit : ∀ state level, KeepsColonFree (fun _ => True) (visit state level))
include hvisit

theorem keepsColonFree_visitFolders {climb : Climb} (h : ColonFree climb.project climb.branch)
    (distance : Nat) (folders : List String) (state : β) :
    KeepsColonFree (fun _ => True) (visitFolders site climb visit distance folders state) := by
  induction folders generalizing distance state with
  | nil => exact keepsColonFree_pure trivial
  | cons folder rest ih =>
      rw [visitFolders_cons]
      apply (keepsColonFree_levelAt? h folder distance).bind
      intro found _
      cases found with
      | none => exact ih (distance + 1) state
      | some level =>
          apply (hvisit state level).bind
          intro step _
          cases step with
          | done state => exact keepsColonFree_pure trivial
          | yield state =>
              apply KeepsColonFree.bind (keepsColonFree_liftExcept fun _ _ => trivial)
              intro last _
              split
              · exact keepsColonFree_pure trivial
              · exact ih (distance + 1) state

theorem keepsColonFree_visitLevels {place : Place} (h : ColonFree place.project place.branch)
    (start : β) : KeepsColonFree (fun _ => True) (visitLevels site place start visit) := by
  apply KeepsColonFree.bind (keepsColonFree_liftExcept fun _ hclimb => hclimb)
  intro climb hprepare
  have hclimb := prepared_of_prepare hprepare
  apply keepsColonFree_visitFolders hvisit
  rw [hclimb.project, hclimb.branch]
  exact h

end

/-!
# Many walks
-/

/-- A walk by somebody who may stop at any level.  The tree and the settings may have changed since
the walk before. -/
structure Tour where
  site : Site
  place : Place
  State : Type
  start : State
  visitor : Visitor State

namespace Tour

def walk (tour : Tour) : Walk tour.State :=
  visitLevels tour.site tour.place tour.start fun state level =>
    liftExcept (tour.visitor state level)

def sessionAfter (s : Session) (tours : List Tour) : Session :=
  tours.foldl (fun session tour => (tour.walk.run session).2) s

/-- The files that walks meet one after the other. -/
inductive Meet : List Tour → Session → List Met → Prop
  | nil (s : Session) : Meet [] s []
  | cons {tour : Tour} {rest : List Tour} {s : Session} {met later : List Met} :
      Meets tour.site.tree tour.walk s met → Meet rest (tour.walk.run s).2 later →
      Meet (tour :: rest) s (met ++ later)

variable {tours : List Tour} {met : List Met}

theorem loads_walk (tour : Tour) : Loads tour.site.tree tour.walk :=
  loads_visitLevels (fun _ _ => loads_liftExcept _) _ _

theorem exists_meet (tours : List Tour) (s : Session) : ∃ met, Meet tours s met := by
  induction tours generalizing s with
  | nil => exact ⟨[], .nil s⟩
  | cons tour rest ih =>
      rcases tour.loads_walk.meets s with ⟨met, hmet⟩
      rcases ih (tour.walk.run s).2 with ⟨later, hlater⟩
      exact ⟨met ++ later, .cons hmet hlater⟩

theorem Meet.keeps (h : Meet tours s met) : s ≤ sessionAfter s tours := by
  induction h with
  | nil => exact le_rfl
  | cons hmet _ ih => exact le_trans hmet.keeps ih

theorem Meet.diagnostics (h : Meet tours s met) :
    (sessionAfter s tours).diagnostics = met.foldl Met.note s.diagnostics := by
  induction h with
  | nil => rfl
  | cons hmet _ ih =>
      rw [List.foldl_append, ← hmet.diagnostics, ← ih]
      rfl

theorem Meet.remembers (h : Meet tours s met) : ∀ encounter ∈ met,
    (sessionAfter s tours).cache.get? encounter.place = some encounter.reading := by
  induction h with
  | nil => simp
  | cons hmet hlater ih =>
      intro encounter hmem
      rcases List.mem_append.mp hmem with hfirst | hsecond
      · exact hlater.keeps _ _ (hmet.remembers encounter hfirst)
      · exact ih encounter hsecond

theorem colonFree_sessionAfter (hs : s.ColonFree)
    (h : ∀ tour ∈ tours, ColonFree tour.place.project tour.place.branch) :
    (sessionAfter s tours).ColonFree := by
  induction tours generalizing s with
  | nil => exact hs
  | cons tour rest ih =>
      have hvisit : ∀ state level, KeepsColonFree (fun _ => True)
          (liftExcept (tour.visitor state level)) := fun _ _ =>
        keepsColonFree_liftExcept fun _ _ => trivial
      have hwalk : KeepsColonFree (fun _ => True) tour.walk :=
        keepsColonFree_visitLevels hvisit (h tour List.mem_cons_self) tour.start
      exact ih (hwalk s _ _ hs rfl).1 fun other hother => h other (List.mem_cons_of_mem tour hother)

end Tour

/-- After any walks there is one message for each file that was found broken, in the order in which
they were found first, and it tells of the latest failure of its file. -/
theorem diagnostics_of_tours {tours : List Tour}
    (hplain : ∀ tour ∈ tours, ColonFree tour.place.project tour.place.branch)
    (hnew : s.diagnostics = {}) (hs : s.ColonFree) :
    (∃ met, Tour.Meet tours s met) ∧ ∀ met, Tour.Meet tours s met →
      (Tour.sessionAfter s tours).diagnostics.values.map some =
        (Met.brokenFiles met).map
          (fun file => (Met.latestError? met file).map BrokenConfig.describe) ∧
      (Met.brokenFiles met).Nodup ∧
      ∀ file, file ∈ Met.brokenFiles met ↔
        ∃ encounter ∈ met, encounter.file = file ∧ ∃ error, encounter.reading = .error error := by
  refine ⟨Tour.exists_meet tours s, fun met hmet => ?_⟩
  have hplainMet : ∀ encounter ∈ met, encounter.IsPlain := by
    intro encounter hmem
    -- what was met is still remembered in the end, so that the invariant of the cache is about it
    rcases Tour.colonFree_sessionAfter hs hplain _ _ (hmet.remembers encounter hmem) with
      ⟨hnames, tree, hread⟩
    refine ⟨hnames, fun error herror => ?_⟩
    rw [herror] at hread
    exact hread.filePath
  have hnotes : (Tour.sessionAfter s tours).diagnostics =
      (Met.messages met).rename ConfigFile.text := by
    rw [hmet.diagnostics, hnew]
    exact Met.notes_eq hplainMet
  have hnodup : (Met.brokenFiles met).Nodup := Text.nodup_eraseDups _
  refine ⟨?_, hnodup, fun file => Met.mem_brokenFiles_iff⟩
  rw [← Met.keys_messages] at hnodup ⊢
  rw [hnotes, Table.values_rename, ← Table.map_get?_keys hnodup]
  exact List.map_congr_left fun file _ => Met.get?_messages met file

/-!
# A vineyard with two broken files
-/

def vineyardFiles (north : Content) : History.Commit where
  project := "vineyard"
  branch := "main"
  files := ⟨[("/OWNERS", some "include /north/OWNERS\n".toUTF8.toList),
    ("/north/OWNERS", some north), ("/south/OWNERS", some [0xC3])]⟩

def vineyard : History :=
  (History.attemptWith id (History.attemptWith id {} (vineyardFiles [0xFF])).2
    (vineyardFiles [0xC3])).2

def vineyardTour (number : Nat) (path : String) (last : Nat) : Tour where
  site := vineyard.site {}
  place := {
    project := "vineyard", branch := "main", path
    revision := History.revisionText "vineyard" "main" number }
  State := Nat
  start := last
  visitor left _ := .ok (if left = 1 then .done 0 else .yield (left - 1))

/-- The first walk meets the file of the north in its folder and as an import of the root, the second
that of the south, and the last one that of the north with other bytes. -/
def vineyardTours : List Tour :=
  [vineyardTour 1 "/north/vine" 5, vineyardTour 1 "/south/vine" 1, vineyardTour 2 "/press" 5]

/-- The file of the north is still the first, with the latest message. -/
theorem vineyard_diagnostics :
    (∀ tour ∈ vineyardTours, ColonFree tour.place.project tour.place.branch) ∧
      (Tour.sessionAfter {} vineyardTours).diagnostics.values =
        ["invalid code owner config file vineyard:main:/north/OWNERS: " ++
            "not valid UTF-8 (unexpected end of data)",
          "invalid code owner config file vineyard:main:/south/OWNERS: " ++
            "not valid UTF-8 (unexpected end of data)"] ∧
      ∃ met, Tour.Meet vineyardTours {} met ∧ (Met.brokenFiles met).length = 2 := by
  have hplain : ∀ tour ∈ vineyardTours, ColonFree tour.place.project tour.place.branch := by
    decide
  have hvalues : (Tour.sessionAfter {} vineyardTours).diagnostics.values =
      ["invalid code owner config file vineyard:main:/north/OWNERS: " ++
          "not valid UTF-8 (unexpected end of data)",
        "invalid code owner config file vineyard:main:/south/OWNERS: " ++
          "not valid UTF-8 (unexpected end of data)"] := by decide +kernel
  rcases diagnostics_of_tours hplain rfl Session.colonFree_empty with ⟨⟨met, hmet⟩, hall⟩
  have hlength := congrArg List.length (hall met hmet).1
  rw [hvalues, List.length_map, List.length_map] at hlength
  exact ⟨hplain, hvalues, met, hmet, hlength.symm⟩

end Hierarchy
end Ownership
