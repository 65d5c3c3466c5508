import Ownership.Proofs.Climb
import Ownership.Proofs.Hierarchy.Agreement
import Ownership.Proofs.Imports.Expansion
import Ownership.Proofs.Imports.Targets
import Ownership.Proofs.Tree.Revisions

/-!
# Climbs that cannot fail

In a history a file can be read if its folder and its name are solid and its revision has a
snapshot.  Following imports keeps to such files: the path of an import in a solid folder is solid
again, and it is looked up at the revision of its importer or at the head of a branch.  So a climb
over solid folders comes to its end, and a file that cannot be parsed counts as a missing one.
-/

namespace Ownership

open Walk Ownership.Path

variable {digest : String → String} {history : History} {configs : ProjectConfigs}
  {s : Session}

/-!
# Solid names

Settings that name nothing but the formats that are always there, with an extension that can stand in
a file name, give all configuration files solid names.
-/

structure ProjectConfig.IsBuiltIn (config : ProjectConfig) : Prop where
  backends : ∀ name, name = config.backend ∨ name ∈ config.backendByBranch.values →
    ∃ backend, Registry.builtIn.get name = .ok backend
  extension : ∀ text ∈ config.fileExtension, ∀ c ∈ text.toList,
    c ≠ '/' ∧ c ≠ '\\' ∧ Text.isBlank c = false

/-- Every branch has a format, and its configuration files have solid names. -/
structure Site.SolidNames (site : Site) : Prop where
  backend : ∀ project branch, ∃ backend, site.backendFor project branch = .ok backend ∧
    Path.IsSolid backend.fileName.toList
  config : ∀ project branch, ∃ name, site.configFileName project branch = .ok name ∧
    Path.IsSolid name.toList

theorem Site.SolidNames.plainNames {site : Site} (h : site.SolidNames) : site.PlainNames := by
  refine ⟨fun project branch backend hbackend => ?_, fun project branch name hname => ?_⟩
  · rcases h.backend project branch with ⟨found, hfound, hsolid⟩
    rw [hfound] at hbackend
    cases hbackend
    exact hsolid.slash_notMem
  · rcases h.config project branch with ⟨found, hfound, hsolid⟩
    rw [hfound] at hname
    cases hname
    exact hsolid.slash_notMem

theorem ProjectConfig.IsBuiltIn.backendFor {config : ProjectConfig} (h : config.IsBuiltIn)
    (branch : String) : ∃ backend, Registry.builtIn.get (config.backendFor branch) = .ok backend := by
  apply h.backends
  unfold ProjectConfig.backendFor
  dsimp only
  split
  · rename_i entry hentry
    exact .inr (List.mem_map_of_mem (List.mem_of_find?_eq_some hentry))
  · exact .inl rfl

theorem default_isBuiltIn : ({} : ProjectConfig).IsBuiltIn where
  backends name hname := by
    rcases hname with rfl | hmem
    · exact ⟨_, rfl⟩
    · cases hmem
  extension text htext := by cases htext

theorem ProjectConfigs.get_put (configs : ProjectConfigs) (project : String)
    (config : ProjectConfig) (other : String) :
    (configs.put project config).get other = if project = other then config else configs.get other := by
  unfold ProjectConfigs.get ProjectConfigs.put Table.getD
  rw [Table.get?_insert]
  split
  · rfl
  · rfl

theorem Registry.get?_of_get {registry : Registry} {name : String} {backend : Backend}
    (h : registry.get name = .ok backend) :
    registry.backends.get? backend.id = some ⟨backend.format, backend.fileName⟩ := by
  rcases except_bind_eq_ok.mp h with ⟨id, _, hid⟩
  cases hfound : registry.backends.get? id with
  | none =>
      rw [hfound] at hid
      cases hid
  | some registration =>
      rw [hfound] at hid
      cases hid
      exact hfound

theorem fileName_of_builtIn {name : String} {backend : Backend}
    (h : Registry.builtIn.get name = .ok backend) :
    backend.fileName = "OWNERS" ∨ backend.fileName = "OWNERS_METADATA" := by
  have hfound := Registry.get?_of_get h
  rcases Option.map_eq_some_iff.mp hfound with ⟨entry, hentry, hregistration⟩
  have hmem := List.mem_of_find?_eq_some hentry
  rcases List.mem_cons.mp hmem with rfl | hmem
  · exact .inl (congrArg Registration.fileName hregistration).symm
  · rcases List.mem_singleton.mp hmem with rfl
    exact .inr (congrArg Registration.fileName hregistration).symm

theorem isSolid_of_owners {letters : List Char}
    (h : ∀ c ∈ letters, c ≠ '/' ∧ c ≠ '\\' ∧ Text.isBlank c = false) :
    Path.IsSolid ('O' :: letters) := by
  have hall : ∀ c ∈ 'O' :: letters, c ≠ '/' ∧ c ≠ '\\' ∧ Text.isBlank c = false := by
    intro c hc
    rcases List.mem_cons.mp hc with rfl | hc
    · decide
    · exact h c hc
  refine solid_of_no_blank ⟨by simp, by simp, by simp, fun c hc => ?_⟩ fun c hc => (hall c hc).2.2
  exact ⟨(hall c hc).1, (hall c hc).2.1⟩

theorem isSolid_fileName {name : String} {backend : Backend}
    (h : Registry.builtIn.get name = .ok backend) : Path.IsSolid backend.fileName.toList := by
  rcases fileName_of_builtIn h with hname | hname <;> rw [hname]
  · change Path.IsSolid ('O' :: "WNERS".toList)
    exact isSolid_of_owners (Text.forall_mem_of_all (by decide))
  · change Path.IsSolid ('O' :: "WNERS_METADATA".toList)
    exact isSolid_of_owners (Text.forall_mem_of_all (by decide))

theorem isSolid_fileNameFor {name : String} {backend : Backend}
    (h : Registry.builtIn.get name = .ok backend) {extension : Option String}
    (hextension : ∀ text ∈ extension, ∀ c ∈ text.toList,
      c ≠ '/' ∧ c ≠ '\\' ∧ Text.isBlank c = false) :
    Path.IsSolid (backend.fileNameFor extension).toList := by
  unfold Backend.fileNameFor
  split
  · rename_i text htext
    have hplain := hextension text (Option.filter_eq_some_iff.mp htext).1
    have hletters : ∀ rest : List Char,
        (∀ c ∈ rest, c ≠ '/' ∧ c ≠ '\\' ∧ Text.isBlank c = false) →
          Path.IsSolid ('O' :: rest ++ ['.'] ++ text.toList) := by
      intro rest hrest
      rw [List.append_assoc, List.cons_append]
      apply isSolid_of_owners
      intro c hc
      rcases List.mem_append.mp hc with hc | hc
      · exact hrest c hc
      · rcases List.mem_append.mp hc with hc | hc
        · rw [List.mem_singleton.mp hc]
          decide
        · exact hplain c hc
    rcases fileName_of_builtIn h with hname | hname <;>
      rw [hname, String.toList_append, String.toList_append]
    · exact hletters "WNERS".toList (Text.forall_mem_of_all (by decide))
    · exact hletters "WNERS_METADATA".toList (Text.forall_mem_of_all (by decide))
  · exact isSolid_fileName h

theorem Site.names_of_builtIn {site : Site} (hregistry : site.registry = Registry.builtIn)
    {project : String} (h : (site.configs.get project).IsBuiltIn) (branch : String) :
    ∃ backend name, site.backendFor project branch = .ok backend ∧
      site.configFileName project branch = .ok name ∧
      Path.IsSolid backend.fileName.toList ∧ Path.IsSolid name.toList := by
  rcases h.backendFor branch with ⟨backend, hfound⟩
  have hbackend : site.backendFor project branch = .ok backend := by
    unfold Site.backendFor
    rw [hregistry, hfound]
    rfl
  refine ⟨backend, backend.fileNameFor (site.configs.get project).fileExtension, hbackend, ?_,
    isSolid_fileName hfound, isSolid_fileNameFor hfound h.extension⟩
  unfold Site.configFileName
  rw [hbackend]
  rfl

theorem Site.solidNames_of_builtIn {site : Site} (hregistry : site.registry = Registry.builtIn)
    (h : ∀ project, (site.configs.get project).IsBuiltIn) : site.SolidNames := by
  constructor
  · intro project branch
    rcases site.names_of_builtIn hregistry (h project) branch with
      ⟨backend, _, hbackend, _, hsolid, _⟩
    exact ⟨backend, hbackend, hsolid⟩
  · intro project branch
    rcases site.names_of_builtIn hregistry (h project) branch with ⟨_, name, _, hname, _, hsolid⟩
    exact ⟨name, hname, hsolid⟩

theorem names_of_builtIn (history : History) {project : String}
    (h : (configs.get project).IsBuiltIn) (branch : String) :
    ∃ backend name, (history.site configs).backendFor project branch = .ok backend ∧
      (history.site configs).configFileName project branch = .ok name ∧
      Path.IsSolid backend.fileName.toList ∧ Path.IsSolid name.toList :=
  (history.site configs).names_of_builtIn rfl h branch

theorem solidNames_of_builtIn (history : History)
    (h : ∀ project, (configs.get project).IsBuiltIn) : (history.site configs).SolidNames :=
  (history.site configs).solidNames_of_builtIn rfl h

namespace Hierarchy

/-!
# Files that can be read
-/

theorem readFresh_of_isSolid {backend : Backend} {key : ConfigKey} {revision : String}
    {snapshot : Snapshot} (hsnapshot : history.snapshotAt? key.project revision = some snapshot)
    (hsolid : key.IsSolid backend.fileName) :
    ∃ reading, Loader.readFresh history.tree backend key revision = .ok reading ∧
      ∀ config, reading = .ok (some config) → config.key = key ∧ config.SolidImports := by
  unfold Loader.readFresh
  rw [show history.tree.contentOf = history.contentOf from rfl,
    History.contentOf_of_isSolidPath hsnapshot hsolid.isSolidPath]
  cases snapshot.get? (key.filePath backend.fileName) with
  | none =>
      refine ⟨.ok none, rfl, fun config hconfig => ?_⟩
      cases hconfig
  | some content =>
      refine ⟨Loader.readContent backend key content, rfl, fun config hconfig => ?_⟩
      exact ⟨Loader.key_of_readContent hconfig,
        Loader.solidImports_of_readContent hsolid.folder hconfig⟩

structure SoundFound (history : History) (found : Found) : Prop where
  imports : found.1.SolidImports
  snapshot : ∃ snapshot, history.snapshotAt? found.1.key.project found.2 = some snapshot

structure SoundPending (history : History) (pending : Pending) : Prop where
  path : IsSolidPath pending.imp.path
  snapshot : ∃ snapshot,
    history.snapshotAt? pending.importer.project pending.revision = some snapshot

theorem soundFound_of_sameConfig {key : ConfigKey} {revision : String} {config other : OwnerConfig}
    (hsame : config.unnamed = other.unnamed)
    (hread : other.key = key ∧ other.SolidImports)
    (hsnapshot : ∃ snapshot, history.snapshotAt? key.project revision = some snapshot) :
    SoundFound history (config, revision) := by
  refine ⟨fun imp himp => ?_, ?_⟩
  · rw [OwnerConfig.imports_of_unnamed hsame] at himp
    exact hread.2 imp himp
  · rw [OwnerConfig.project_of_unnamed hsame, hread.1]
    exact hsnapshot

theorem soundPending_of_nextImports {config : OwnerConfig} {revision : String} {pending : Pending}
    {scope : ImportScope} (h : SoundFound history (config, revision))
    (hmem : pending ∈ nextImports scope config revision) : SoundPending history pending := by
  rcases List.mem_map.mp hmem with ⟨imp, himp, rfl⟩
  exact ⟨h.imports imp himp, h.snapshot⟩

/-- The revision that an import refers to has a snapshot if that of its importer has one. -/
theorem snapshot_of_importRevision (hmade : History.Made digest history) (configs : ProjectConfigs)
    {pending : Pending}
    (hsnapshot : ∃ snapshot,
      history.snapshotAt? pending.importer.project pending.revision = some snapshot)
    (project branch : String) :
    ∃ head?, importRevision (history.site configs) pending project branch = .ok head? ∧
      ∀ revision ∈ head?, ∃ snapshot, history.snapshotAt? project revision = some snapshot := by
  unfold importRevision
  split
  · rename_i hsame
    refine ⟨_, rfl, fun revision hrevision => ?_⟩
    cases hrevision
    rw [hsame.1]
    exact hsnapshot
  · exact ⟨_, rfl, fun revision hrevision => hmade.snapshot_of_head hrevision⟩

section

variable (hmade : History.Made digest history) (hnames : (history.site configs).SolidNames)
include hmade hnames

theorem succeeds_loadImport {pending : Pending} (h : SoundPending history pending) :
    Succeeds (history.site configs) (fun found => ∀ target ∈ found, SoundFound history target)
      (loadImport (history.site configs) pending) := by
  rcases snapshot_of_importRevision hmade configs h.snapshot pending.project pending.branch with
    ⟨head?, hhead, hsnapshots⟩
  unfold loadImport
  apply succeeds_lift_bind hhead
  cases head? with
  | none =>
      apply succeeds_pure
      intro target htarget
      cases htarget
  | some revision =>
      rcases hnames.backend pending.project pending.branch with ⟨backend, hbackend, hdefault⟩
      rcases importKey_of_isSolidPath h.path hdefault pending.project pending.branch with
        ⟨key, hkey, hproject, _, hsolid⟩
      have hsnapshot := hsnapshots revision rfl
      rw [← hproject] at hsnapshot
      rcases hsnapshot with ⟨snapshot, hsnapshot⟩
      rcases readFresh_of_isSolid hsnapshot hsolid with ⟨reading, hread, hsound⟩
      apply succeeds_lift_bind hkey
      apply succeeds_lift_bind hbackend
      apply (succeeds_loadOrSkip (looksUp_of_importKey hnames.plainNames hkey hbackend) hread).bind
      intro found hfound
      apply succeeds_pure
      intro target htarget
      rcases Option.map_eq_some_iff.mp htarget with ⟨config, rfl, rfl⟩
      cases reading with
      | error defect => cases hfound
      | ok read? =>
          cases read? with
          | none => cases hfound
          | some config' =>
              have hsame : config.unnamed = config'.unnamed := Option.some.inj hfound
              exact soundFound_of_sameConfig hsame (hsound config' rfl) ⟨snapshot, hsnapshot⟩

theorem succeeds_followRound {round : List Pending}
    (h : ∀ pending ∈ round, SoundPending history pending) (expansion : Expansion) :
    Succeeds (history.site configs)
      (fun gathered => ∀ pending ∈ gathered.2, SoundPending history pending)
      (followRound (history.site configs) expansion round) := by
  induction round generalizing expansion with
  | nil =>
      apply succeeds_pure
      intro pending hpending
      cases hpending
  | cons pending rest ih =>
      have hrest : ∀ other ∈ rest, SoundPending history other := fun other hother =>
        h other (List.mem_cons_of_mem pending hother)
      rw [followRound_cons]
      apply (succeeds_loadImport hmade hnames (h pending List.mem_cons_self)).bind
      intro found hfound
      cases found with
      | none => exact ih hrest expansion
      | some target =>
          apply (ih hrest _).bind
          intro gathered hgathered
          apply succeeds_pure
          intro later hlater
          rcases List.mem_append.mp hlater with hnext | hother
          · exact soundPending_of_nextImports (hfound target rfl) hnext
          · exact hgathered later hother

theorem succeeds_followRounds {round : List Pending}
    (h : ∀ pending ∈ round, SoundPending history pending) (expansion : Expansion) (rounds : Nat) :
    Succeeds (history.site configs) (fun _ => True)
      (followRounds (history.site configs) expansion round rounds) := by
  induction rounds generalizing expansion round with
  | zero => exact succeeds_pure trivial
  | succ rounds ih =>
      unfold followRounds
      split
      · exact succeeds_pure trivial
      · apply (succeeds_followRound hmade hnames h expansion).bind
        intro gathered hgathered
        exact ih hgathered gathered.1

theorem succeeds_expandImports {config : OwnerConfig} {revision : String}
    (h : SoundFound history (config, revision)) (depth : Nat) :
    Succeeds (history.site configs) (fun expanded => expanded.key = config.key)
      (expandImports (history.site configs) config revision depth) := by
  unfold expandImports
  split
  · exact succeeds_pure rfl
  · refine (succeeds_followRounds hmade hnames ?_ _ depth).bind fun _ _ => succeeds_pure rfl
    intro pending hpending
    rcases List.mem_map.mp hpending with ⟨imp, himp, rfl⟩
    exact ⟨h.imports imp himp, h.snapshot⟩

end

/-!
# What stands in a folder
-/

def Climb.keyAt (climb : Climb) (folder : String) : ConfigKey where
  project := climb.project
  branch := climb.branch
  folder := folder
  fileName := some climb.fileName

/-- Nothing stands in a folder whose file is missing or broken.  Otherwise it is a level: the
configuration of the file, expanded by all that it imports. -/
inductive Stands (site : Site) (climb : Climb) (folder : String) (distance : Nat) :
    Option Level → Prop
  | missing :
      Loader.readFresh site.tree climb.backend (climb.keyAt folder) climb.revision =
        .ok (.ok none) →
      Stands site climb folder distance none
  | broken {defect : BrokenConfig} :
      Loader.readFresh site.tree climb.backend (climb.keyAt folder) climb.revision =
        .ok (.error defect) →
      Stands site climb folder distance none
  | sound {config expanded : OwnerConfig} {t : Session} {level : Level} :
      Loader.readFresh site.tree climb.backend (climb.keyAt folder) climb.revision =
        .ok (.ok (some config)) →
      (expandImports site config climb.revision climb.importDepth).run {} = (.ok expanded, t) →
      level.config.unnamed = expanded.unnamed → level.distance = distance →
      level.folder = folder → Stands site climb folder distance (some level)

theorem folderKey_of_isSolidPath (climb : Climb) {folder : String} (h : IsSolidPath folder) :
    folderKey climb folder = .ok (climb.keyAt folder) := by
  unfold folderKey
  rw [create_of_isSolidPath h]
  rfl

theorem lookupName_keyAt {climb : Climb} (h : Path.IsSolid climb.fileName.toList)
    (folder defaultFileName : String) :
    (climb.keyAt folder).lookupName defaultFileName = climb.fileName := by
  unfold ConfigKey.lookupName Climb.keyAt Text.nonempty?
  rw [Option.filter_some, if_pos, Option.getD_some]
  simpa using h.nonempty

theorem isSolid_keyAt {site : Site} (hnames : site.SolidNames) {place : Place} {climb : Climb}
    (hclimb : Prepared site place climb) {folder : String} (hfolder : IsSolidPath folder) :
    (climb.keyAt folder).IsSolid climb.backend.fileName := by
  refine ⟨hfolder, ?_⟩
  rcases hnames.config climb.project climb.branch with ⟨name, hname, hsolid⟩
  rw [hclimb.fileName] at hname
  cases hname
  rw [lookupName_keyAt hsolid]
  exact hsolid

section

variable (hmade : History.Made digest history) (hnames : (history.site configs).SolidNames)
include hmade hnames

/-- A configuration that has been found under another name is expanded to the same level as the one
that stands in the file. -/
theorem succeeds_expand_standing {climb : Climb} {folder : String} {snapshot : Snapshot}
    {config standing : OwnerConfig} (hsame : config.unnamed = standing.unnamed)
    (hread : Loader.readFresh (history.site configs).tree climb.backend (climb.keyAt folder)
      climb.revision = .ok (.ok (some standing)))
    (hstanding : standing.key = climb.keyAt folder ∧ standing.SolidImports)
    (hsnapshot : history.snapshotAt? (climb.keyAt folder).project climb.revision = some snapshot)
    (distance : Nat) :
    Succeeds (history.site configs) (Stands (history.site configs) climb folder distance)
      (expandImports (history.site configs) config climb.revision climb.importDepth >>= fun config =>
        pure (some { config, distance })) := by
  have hfound : SoundFound history (config, climb.revision) :=
    soundFound_of_sameConfig hsame hstanding ⟨snapshot, hsnapshot⟩
  have hfresh : SoundFound history (standing, climb.revision) :=
    soundFound_of_sameConfig rfl hstanding ⟨snapshot, hsnapshot⟩
  intro s hs
  rcases succeeds_expandImports hmade hnames hfound climb.importDepth s hs with
    ⟨expanded, t, hrun, ht, hkey⟩
  rcases succeeds_expandImports hmade hnames hfresh climb.importDepth {}
    (Session.faithful_empty _) with ⟨fresh, u, hfreshRun, _, _⟩
  have halike := (agrees_expandImports (.refl (history.site configs)) hnames.plainNames hsame
    climb.revision climb.importDepth s {} hs (Session.faithful_empty _)).2.2
  rw [hrun, hfreshRun] at halike
  cases halike with
  | done hunnamed =>
      refine ⟨some { config := expanded, distance }, t, ?_, ht, ?_⟩
      · exact run_bind_eq_ok.mpr ⟨expanded, t, hrun, rfl⟩
      · refine .sound hread hfreshRun hunnamed rfl ?_
        unfold Level.folder
        rw [hkey, OwnerConfig.folder_of_unnamed hsame, hstanding.1]
        rfl

theorem succeeds_levelAt? {place : Place} {climb : Climb}
    (hclimb : Prepared (history.site configs) place climb) {snapshot : Snapshot}
    (hrevision : history.snapshotAt? place.project place.revision = some snapshot)
    {folder : String} (hfolder : IsSolidPath folder) (distance : Nat) :
    Succeeds (history.site configs) (Stands (history.site configs) climb folder distance)
      (levelAt? (history.site configs) climb folder distance) := by
  have hsnapshot : history.snapshotAt? (climb.keyAt folder).project climb.revision =
      some snapshot := by
    unfold Climb.keyAt
    dsimp only
    rw [hclimb.project, hclimb.revision]
    exact hrevision
  rcases readFresh_of_isSolid hsnapshot (isSolid_keyAt hnames hclimb hfolder) with
    ⟨reading, hread, hsound⟩
  have hkey := folderKey_of_isSolidPath climb hfolder
  rw [levelAt?_eq]
  apply succeeds_lift_bind hkey
  apply (succeeds_loadOrSkip (looksUp_of_folderKey hnames.plainNames hclimb hkey) hread).bind
  intro found hfound
  unfold SameConfig at hfound
  cases found with
  | none =>
      apply succeeds_pure
      cases reading with
      | error defect => exact .broken hread
      | ok read? =>
          cases read? with
          | none => exact .missing hread
          | some config => cases hfound
  | some config =>
      cases reading with
      | error defect => cases hfound
      | ok read? =>
          cases read? with
          | none => cases hfound
          | some standing =>
              exact succeeds_expand_standing hmade hnames (Option.some.inj hfound) hread
                (hsound standing rfl) hsnapshot distance

end

end Hierarchy
end Ownership
