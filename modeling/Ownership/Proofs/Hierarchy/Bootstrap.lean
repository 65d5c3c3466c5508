import Ownership.Proofs.Hierarchy.Sound

/-!
# Branches without configuration files

A branch is bootstrapped as long as none of its files has the name of a configuration file.  The
names are taken from a listing there, while a climb puts the paths that it asks for together from
folders and a name, and has them normalized again.  Both come to the same: if the listing holds no
such name, no climb finds a level, and none has anything to note.
-/

namespace Ownership

open Walk Session Ownership.Path

variable {history : History} {configs : ProjectConfigs} {project branch revision name : String}
  {snapshot : Snapshot} {s t : Session}

/-!
# Sessions that have read from a tree
-/

/-- All that a session remembers was read from the tree, in whatever format. -/
def Session.Genuine (tree : Tree) (s : Session) : Prop :=
  s.HoldsOnly fun place reading => ∃ backend key revision,
    Loader.cacheKey backend key revision = place ∧
      Loader.readFresh tree backend key revision = .ok reading

theorem Session.genuine_empty (tree : Tree) : ({} : Session).Genuine tree := holdsOnly_empty _

theorem Session.Genuine.put {tree : Tree} {backend : Backend} {key : ConfigKey} {reading : Reading}
    (h : s.Genuine tree) (hread : Loader.readFresh tree backend key revision = .ok reading)
    (hcache : t.cache = s.cache.put (Loader.cacheKey backend key revision) reading) :
    t.Genuine tree :=
  HoldsOnly.put h ⟨backend, key, revision, rfl, hread⟩ hcache

namespace Loader

variable {tree : Tree} {backend : Backend} {key : ConfigKey}

/-- A file is read by its path, so it is missing for all who ask for it. -/
theorem readFresh_of_place {other : Backend} {otherKey : ConfigKey} {otherRevision : String}
    (hplace : cacheKey other otherKey otherRevision = cacheKey backend key revision)
    (h : tree.contentOf key.project revision (key.filePath backend.fileName) = .ok none) :
    readFresh tree other otherKey otherRevision = .ok (.ok none) := by
  unfold cacheKey at hplace
  injection hplace with hproject _ hrevision hpath _
  unfold readFresh
  rw [hproject, hrevision, hpath, h]
  rfl

theorem run_loadOrSkip_of_missing (hs : s.Genuine tree)
    (h : tree.contentOf key.project revision (key.filePath backend.fileName) = .ok none) :
    ∃ t, (loadOrSkip tree backend key revision).run s = (.ok none, t) ∧ t.Genuine tree ∧
      t.diagnostics = s.diagnostics ∧ t.warnings = s.warnings := by
  have hread : readFresh tree backend key revision = .ok (.ok none) := readFresh_of_place rfl h
  unfold loadOrSkip
  cases hknown : s.cache.get? (cacheKey backend key revision) with
  | some reading =>
      rcases hs _ _ hknown with ⟨other, otherKey, otherRevision, hplace, hfresh⟩
      have hmissing : reading = .ok none :=
        Except.ok.inj (hfresh.symm.trans (readFresh_of_place hplace h))
      rw [run_bind_of_ok (run_fetch_of_remembered hknown), hmissing]
      exact ⟨s, rfl, hs, rfl, rfl⟩
  | none =>
      rw [run_bind_of_ok (run_fetch_of_read hknown hread)]
      exact ⟨_, rfl, hs.put hread rfl, rfl, rfl⟩

end Loader

/-!
# Listing and looking up
-/

def Snapshot.Lacks (snapshot : Snapshot) (name : String) : Prop :=
  ∀ path ∈ snapshot.keys, fileName path ≠ name

instance (snapshot : Snapshot) (name : String) : Decidable (snapshot.Lacks name) :=
  inferInstanceAs (Decidable (∀ path ∈ snapshot.keys, _))

theorem containsAnyConfig_eq_false_iff
    (hname : (history.site configs).configFileName project branch = .ok name)
    (hhead : history.head? project branch = some revision) :
    (history.site configs).containsAnyConfig project branch = .ok false ↔
      ∃ snapshot, history.snapshotAt? project revision = some snapshot ∧ snapshot.Lacks name := by
  have hscan : (history.site configs).containsAnyConfig project branch =
      (history.snapshot project revision).map fun snapshot =>
        (Text.sorted snapshot.keys).any fun path => decide (fileName path = name) := by
    have hbranch : (history.site configs).tree.branchHead project branch = .ok (some revision) :=
      congrArg Except.ok hhead
    have hlist : (history.site configs).tree.listFiles project revision =
        history.listFiles project revision := rfl
    unfold Site.containsAnyConfig
    rw [hbranch, hname]
    dsimp only [bind, Except.bind]
    rw [hlist]
    unfold History.listFiles
    cases history.snapshot project revision <;> rfl
  rw [hscan]
  unfold History.snapshot
  cases history.snapshotAt? project revision with
  | none => simp [Except.map]
  | some snapshot =>
      simp only [Except.map, Except.ok.injEq, List.any_eq_false, Text.mem_sorted,
        decide_eq_true_eq, Option.some.injEq, exists_eq_left']
      rfl

namespace ConfigKey

theorem filePath_of_isNormal (key : ConfigKey) (defaultFileName : String)
    (hfolder : IsNormal key.folder.toList)
    (hname : Path.IsSolid (key.lookupName defaultFileName).toList) :
    normalize (key.filePath defaultFileName) = .ok (key.filePath defaultFileName) ∧
      Path.fileName (key.filePath defaultFileName) = key.lookupName defaultFileName := by
  rcases hfolder with ⟨parts, hform, hparts⟩
  have hfolder : key.folder = ofParts parts := by
    rw [← String.toList_inj, hform, toList_ofParts]
  rw [filePath_ofParts hfolder hparts]
  constructor
  · exact normalize_below hparts hname
  · unfold Path.fileName
    rw [toList_ofParts, lastPart_append _ hname.slash_notMem, String.ofList_toList]

end ConfigKey

theorem contentOf_of_lacks (hsnapshot : history.snapshotAt? project revision = some snapshot)
    (hlacks : snapshot.Lacks name) {path : String} (hnormal : normalize path = .ok path)
    (hname : fileName path = name) : history.contentOf project revision path = .ok none := by
  have hmissing : snapshot.get? path = none := by
    rw [Table.get?_eq_none_iff]
    intro hmem
    exact hlacks path hmem hname
  unfold History.contentOf History.snapshot
  rw [hsnapshot, hnormal]
  exact congrArg Except.ok hmissing

namespace Hierarchy

variable {climb : Climb} {folder : String}

/-!
# Climbing without a level
-/

def foldersOf (path : String) : Except PathError (List String) := do
  ancestorFolders (← normalize path)

theorem run_levelAt?_of_lacks (configs : ProjectConfigs) (hs : s.Genuine history.tree)
    (hsnapshot : history.snapshotAt? climb.project climb.revision = some snapshot)
    (hlacks : snapshot.Lacks climb.fileName) (hname : Path.IsSolid climb.fileName.toList)
    (hfolder : ∃ normal, normalizeFolder folder = .ok normal) (distance : Nat) :
    ∃ t, (levelAt? (history.site configs) climb folder distance).run s = (.ok none, t) ∧
      t.Genuine history.tree ∧ t.diagnostics = s.diagnostics ∧ t.warnings = s.warnings := by
  rcases hfolder with ⟨normal, hnormal⟩
  have hkey : folderKey climb folder = .ok (climb.keyAt normal) := by
    unfold folderKey ConfigKey.create
    rw [hnormal]
    rfl
  have hlookup := lookupName_keyAt hname normal climb.backend.fileName
  rcases ConfigKey.filePath_of_isNormal (climb.keyAt normal) climb.backend.fileName
    (normalizeFolder_eq_ok hnormal).1 (hlookup.symm ▸ hname) with ⟨hpath, hlast⟩
  have hmissing : history.tree.contentOf (climb.keyAt normal).project climb.revision
      ((climb.keyAt normal).filePath climb.backend.fileName) = .ok none :=
    contentOf_of_lacks hsnapshot hlacks hpath (hlast.trans hlookup)
  rcases Loader.run_loadOrSkip_of_missing hs hmissing with
    ⟨t, hload, ht, hdiagnostics, hwarnings⟩
  refine ⟨t, ?_, ht, hdiagnostics, hwarnings⟩
  rw [levelAt?_eq, hkey, run_bind_of_ok (run_liftExcept _ s)]
  exact (run_bind_of_ok hload).trans rfl

theorem run_visitFolders_of_lacks (configs : ProjectConfigs) (hs : s.Genuine history.tree)
    (hsnapshot : history.snapshotAt? climb.project climb.revision = some snapshot)
    (hlacks : snapshot.Lacks climb.fileName) (hname : Path.IsSolid climb.fileName.toList)
    {folders : List String}
    (hfolders : ∀ folder ∈ folders, ∃ normal, normalizeFolder folder = .ok normal)
    (distance : Nat) :
    ∃ t, t.diagnostics = s.diagnostics ∧ t.warnings = s.warnings ∧
      ∀ {β : Type} (start : β) (visit : β → Level → Walk (ForInStep β)),
        (visitFolders (history.site configs) climb visit distance folders start).run s =
          (.ok start, t) := by
  induction folders generalizing s distance with
  | nil => exact ⟨s, rfl, rfl, fun start visit => rfl⟩
  | cons folder rest ih =>
      rcases run_levelAt?_of_lacks configs hs hsnapshot hlacks hname
        (hfolders folder List.mem_cons_self) distance with
        ⟨mid, hlevel, hmid, hmidDiagnostics, hmidWarnings⟩
      rcases ih hmid (fun other hother => hfolders other (List.mem_cons_of_mem folder hother))
        (distance + 1) with ⟨t, hdiagnostics, hwarnings, hrest⟩
      refine ⟨t, hdiagnostics.trans hmidDiagnostics, hwarnings.trans hmidWarnings, ?_⟩
      intro β start visit
      rw [run_visitFolders_of_none hlevel]
      exact hrest start visit

theorem prepare_cases {site : Site} (place : Place) {backend : Backend}
    (hbackend : site.backendFor place.project place.branch = .ok backend)
    (hname : site.configFileName place.project place.branch = .ok name) :
    (∃ defect, foldersOf place.path = .error defect ∧ prepare site place = .error (.path defect)) ∨
      ∃ climb, prepare site place = .ok climb ∧ foldersOf place.path = .ok climb.folders := by
  unfold prepare foldersOf
  rw [hbackend, hname]
  cases normalize place.path with
  | error defect => exact .inl ⟨defect, rfl, rfl⟩
  | ok path =>
      dsimp only [bind, Except.bind, Except.mapError]
      cases ancestorFolders path with
      | error defect => exact .inl ⟨defect, rfl, rfl⟩
      | ok folders => exact .inr ⟨_, rfl, rfl⟩

/-- If no file at the head of a branch has the name of a configuration file, a climb for a path
finds no level and notes nothing, whoever visits: it fails if the path has no folders to climb
through, and otherwise visits nothing. -/
theorem no_level_of_no_config (hconfig : (configs.get project).IsBuiltIn)
    (hhead : history.head? project branch = some revision)
    (hnone : (history.site configs).containsAnyConfig project branch = .ok false)
    (hs : s.Genuine history.tree) (path : String) :
    ∃ t, t.diagnostics = s.diagnostics ∧ t.warnings = s.warnings ∧
      (levels (history.site configs) { project, branch, revision, path }).run s =
        (((foldersOf path).mapError Failure.path).map fun _ => [], t) ∧
      ∀ {β : Type} (start : β) (visit : β → Level → Walk (ForInStep β)),
        (visitLevels (history.site configs) { project, branch, revision, path } start visit).run s =
          (((foldersOf path).mapError Failure.path).map fun _ => start, t) := by
  rcases names_of_builtIn history hconfig branch with ⟨backend, name, hbackend, hname, _, hsolid⟩
  rcases (containsAnyConfig_eq_false_iff hname hhead).mp hnone with ⟨snapshot, hsnapshot, hlacks⟩
  suffices hvisit : ∃ t, t.diagnostics = s.diagnostics ∧ t.warnings = s.warnings ∧
      ∀ {β : Type} (start : β) (visit : β → Level → Walk (ForInStep β)),
        (visitLevels (history.site configs) { project, branch, revision, path } start visit).run s =
          (((foldersOf path).mapError Failure.path).map fun _ => start, t) by
    rcases hvisit with ⟨t, hdiagnostics, hwarnings, hruns⟩
    exact ⟨t, hdiagnostics, hwarnings, hruns _ _, hruns⟩
  rcases prepare_cases { project, branch, revision, path } hbackend hname with
    ⟨defect, hfolders, hprepare⟩ | ⟨climb, hprepare, hfolders⟩
  · refine ⟨s, rfl, rfl, fun start visit => ?_⟩
    unfold visitLevels
    rw [hprepare, hfolders]
    rfl
  · have hclimb := prepared_of_prepare hprepare
    have hfileName : climb.fileName = name := by
      have hclimbName := hclimb.fileName
      rw [hclimb.project, hclimb.branch, hname] at hclimbName
      exact (Except.ok.inj hclimbName).symm
    have hrevision : history.snapshotAt? climb.project climb.revision = some snapshot := by
      rw [hclimb.project, hclimb.revision]
      exact hsnapshot
    rw [← hfileName] at hlacks hsolid
    rcases run_visitFolders_of_lacks configs hs hrevision hlacks hsolid
      (fun _ hfolder => normalizeFolder_of_mem_ancestorFolders hclimb.folders hfolder) 0 with
      ⟨t, hdiagnostics, hwarnings, hruns⟩
    refine ⟨t, hdiagnostics, hwarnings, fun start visit => ?_⟩
    unfold visitLevels
    rw [hprepare, hfolders]
    exact hruns start visit

/-!
# A meadow

The configuration files of the meadow have an extension, and those that it has lack it.
-/

def meadowCommit : Except PathError (String × History) :=
  History.commitWith id {} "meadow" "main" ⟨[
    ("/OWNERS", some "ann@meadow\n".toUTF8.toList),
    ("/brook/OWNERS_METADATA.txt", some [255]),
    ("/brook/OWNERS", some [255])]⟩

def meadow : History := (meadowCommit.toOption.map Prod.snd).getD {}

def meadowConfigs : ProjectConfigs where
  byProject := Table.ofList [("meadow", { fileExtension := some "txt" })]

theorem meadow_isBuiltIn : (meadowConfigs.get "meadow").IsBuiltIn where
  backends name hname := by
    rcases hname with rfl | hmem
    · exact ⟨_, rfl⟩
    · cases hmem
  extension text htext := by
    cases htext
    exact Text.forall_mem_of_all (by decide)

theorem meadow_no_level :
    (meadow.site meadowConfigs).configFileName "meadow" "main" = .ok "OWNERS.txt" ∧
      (meadow.site meadowConfigs).containsAnyConfig "meadow" "main" = .ok false ∧
      foldersOf "/brook/grass" = .ok ["/brook", "/"] ∧ ∃ t, t.diagnostics = {} ∧
        (levels (meadow.site meadowConfigs) {
          project := "meadow", branch := "main", revision := "meadow|main|1",
          path := "/brook/grass" }).run {} = (.ok [], t) := by
  have hname : (meadow.site meadowConfigs).configFileName "meadow" "main" = .ok "OWNERS.txt" := rfl
  have hhead : meadow.head? "meadow" "main" = some "meadow|main|1" := by decide +kernel
  have hsnapshot : (meadow.snapshotAt? "meadow" "meadow|main|1").isSome = true ∧
      ∀ snapshot ∈ meadow.snapshotAt? "meadow" "meadow|main|1", snapshot.Lacks "OWNERS.txt" := by
    decide +kernel
  have hfolders : foldersOf "/brook/grass" = .ok ["/brook", "/"] := by decide +kernel
  rcases Option.isSome_iff_exists.mp hsnapshot.1 with ⟨snapshot, hfound⟩
  have hnone := (containsAnyConfig_eq_false_iff hname hhead).mpr
    ⟨snapshot, hfound, hsnapshot.2 snapshot hfound⟩
  rcases no_level_of_no_config meadow_isBuiltIn hhead hnone (Session.genuine_empty _)
    "/brook/grass" with ⟨t, hdiagnostics, _, hrun, _⟩
  rw [hfolders] at hrun
  exact ⟨hname, hnone, hfolders, t, hdiagnostics, hrun⟩

end Hierarchy
end Ownership
