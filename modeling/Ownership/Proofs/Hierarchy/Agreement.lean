import Ownership.Proofs.Faithful
import Ownership.Proofs.Path.NormalForms
import Ownership.Proofs.Walks

/-!
# Climbs in different sessions

Two faithful sessions hand out the same levels for a place, up to the names of their files.  The
same holds for two sites in which every file reads alike, so that a broken file counts as a missing
one.
-/

namespace Ownership

open Walk

variable {β γ : Type} {site site' : Site}

/-!
# Names of files
-/

/-- No file that is looked up has a slash in its name. -/
structure Site.PlainNames (site : Site) : Prop where
  default : ∀ project branch backend, site.backendFor project branch = .ok backend →
    '/' ∉ backend.fileName.toList
  config : ∀ project branch name, site.configFileName project branch = .ok name →
    '/' ∉ name.toList

theorem ConfigKey.create_eq_ok {project branch folder : String} {fileName : Option String}
    {key : ConfigKey} (h : ConfigKey.create project branch folder fileName = .ok key) :
    key.project = project ∧ key.branch = branch ∧ key.fileName = fileName ∧ key.folder ≠ "" := by
  rcases except_bind_eq_ok.mp h with ⟨normal, hfolder, hend⟩
  cases hend
  refine ⟨rfl, rfl, rfl, fun hempty => ?_⟩
  have hhead := Path.head_of_isNormal (Path.normalizeFolder_eq_ok hfolder).1
  dsimp only at hempty
  rw [hempty] at hhead
  cases hhead

theorem ConfigKey.isPlain_of_names {key : ConfigKey} {defaultFileName : String}
    (hfolder : key.folder ≠ "") (hdefault : '/' ∉ defaultFileName.toList)
    (hname : ∀ name ∈ key.fileName, '/' ∉ name.toList) : key.IsPlain defaultFileName := by
  refine ⟨hfolder, ?_⟩
  unfold lookupName
  cases hlookup : Text.nonempty? key.fileName with
  | none => exact hdefault
  | some name => exact hname name (Option.filter_eq_some_iff.mp hlookup).1

theorem Path.slash_notMem_fileName (path : String) : '/' ∉ (Path.fileName path).toList := by
  unfold Path.fileName Path.lastPart
  rw [String.toList_ofList]
  intro hmem
  have hletter := List.mem_takeWhile_imp (List.mem_reverse.mp hmem)
  simp at hletter

namespace Hierarchy

/-!
# Imports
-/

theorem importKey_eq_ok {imp : Import} {project branch : String} {key : ConfigKey}
    (h : importKey imp project branch = .ok key) :
    key.project = project ∧ key.branch = branch ∧
      key.fileName = some (Path.fileName imp.path) ∧ key.folder ≠ "" := by
  rcases except_bind_eq_ok.mp h with ⟨folder, _, hcreate⟩
  exact ConfigKey.create_eq_ok (except_mapError_eq_ok.mp hcreate)

theorem looksUp_of_importKey (hnames : site.PlainNames) {imp : Import} {project branch : String}
    {key : ConfigKey} {backend : Backend} (hkey : importKey imp project branch = .ok key)
    (hbackend : site.backendFor project branch = .ok backend) : site.LooksUp backend key := by
  rcases importKey_eq_ok hkey with ⟨rfl, rfl, hname, hfolder⟩
  refine ⟨hbackend, ConfigKey.isPlain_of_names hfolder (hnames.default _ _ _ hbackend) ?_⟩
  intro name hmem
  rw [hname] at hmem
  cases hmem
  exact Path.slash_notMem_fileName imp.path

def unnamedFound (found : OwnerConfig × String) : OwnerConfig × String :=
  (found.1.unnamed, found.2)

def Pending.unnamed (pending : Pending) : Pending :=
  { pending with importer := pending.importer.unnamed }

theorem loadImport_unnamed (site : Site) (pending : Pending) :
    loadImport site pending.unnamed = loadImport site pending := rfl

theorem importRevision_of_readsLike (hlike : site.ReadsLike site') (pending : Pending)
    (project branch : String) :
    importRevision site' pending project branch = importRevision site pending project branch := by
  unfold importRevision
  rw [hlike.heads]

theorem agrees_loadImport (hlike : site.ReadsLike site') (hnames : site.PlainNames)
    (pending : Pending) :
    Agrees site site' (fun found other => found.map unnamedFound = other.map unnamedFound)
      (loadImport site pending) (loadImport site' pending) := by
  unfold loadImport
  dsimp only
  rw [importRevision_of_readsLike hlike, hlike.backendFor]
  apply agrees_lift_bind
  intro head? _
  cases head? with
  | none => exact agrees_pure rfl
  | some revision =>
      apply agrees_lift_bind
      intro key hkey
      apply agrees_lift_bind
      intro backend hbackend
      apply (agrees_loadOrSkip hlike (looksUp_of_importKey hnames hkey hbackend) revision).bind
      intro found other hsame
      have hmap : ∀ found : Option OwnerConfig,
          (found.map fun config => (config, revision)).map unnamedFound =
            (found.map OwnerConfig.unnamed).map fun config => (config, revision) := by
        intro found
        cases found <;> rfl
      apply agrees_pure
      rw [hmap, hmap, hsame]

/-!
# Rounds of imports
-/

theorem add_unnamed (expansion : Expansion) (scope : ImportScope) (config : OwnerConfig) :
    expansion.add scope config.unnamed = expansion.add scope config := by
  cases scope <;> rfl

theorem nextImports_unnamed (scope : ImportScope) (config : OwnerConfig) (revision : String) :
    (nextImports scope config revision).map Pending.unnamed =
      (nextImports scope config.unnamed revision).map Pending.unnamed := by
  unfold nextImports
  rw [List.map_map, List.map_map]
  rfl

theorem agrees_followRound (hlike : site.ReadsLike site') (hnames : site.PlainNames)
    {round other : List Pending} (hround : round.map Pending.unnamed = other.map Pending.unnamed)
    (expansion : Expansion) :
    Agrees site site' (fun gathered found => gathered.1 = found.1 ∧
        gathered.2.map Pending.unnamed = found.2.map Pending.unnamed)
      (followRound site expansion round) (followRound site' expansion other) := by
  induction round generalizing other expansion with
  | nil =>
      rw [List.map_nil, eq_comm, List.map_eq_nil_iff] at hround
      rw [hround]
      exact agrees_pure ⟨rfl, rfl⟩
  | cons pending rest ih =>
      cases other with
      | nil => cases hround
      | cons pending' rest' =>
          rw [List.map_cons, List.map_cons] at hround
          injection hround with hpending hrest
          rw [followRound_cons, followRound_cons, ← loadImport_unnamed site' pending', ← hpending,
            loadImport_unnamed]
          apply (agrees_loadImport hlike hnames pending).bind
          intro found found' hsame
          have hscope : pending'.imp.scope = pending.imp.scope :=
            (congrArg (fun pending : Pending => pending.imp.scope) hpending).symm
          rcases found with _ | ⟨config, revision⟩ <;> rcases found' with _ | ⟨config', revision'⟩
          · exact ih hrest expansion
          · cases hsame
          · cases hsame
          · rw [Option.map_some, Option.map_some, Option.some.injEq] at hsame
            unfold unnamedFound at hsame
            injection hsame with hconfig hrevision
            dsimp only at hconfig hrevision
            unfold followFound
            dsimp only
            rw [hscope, hrevision, ← add_unnamed _ _ config, hconfig, add_unnamed]
            apply (ih hrest _).bind
            intro gathered gathered' hgathered
            refine agrees_pure ⟨hgathered.1, ?_⟩
            rw [List.map_append, List.map_append, hgathered.2, nextImports_unnamed _ config, hconfig,
              ← nextImports_unnamed _ config']

theorem agrees_followRounds (hlike : site.ReadsLike site') (hnames : site.PlainNames)
    {round other : List Pending} (hround : round.map Pending.unnamed = other.map Pending.unnamed)
    (expansion : Expansion) (rounds : Nat) :
    Agrees site site' Eq (followRounds site expansion round rounds)
      (followRounds site' expansion other rounds) := by
  induction rounds generalizing expansion round other with
  | zero => exact agrees_pure rfl
  | succ rounds ih =>
      have hempty : other.isEmpty = round.isEmpty := by
        rw [← List.isEmpty_map (f := Pending.unnamed), ← hround, List.isEmpty_map]
      unfold followRounds
      rw [hempty]
      split
      · exact agrees_pure rfl
      · apply (agrees_followRound hlike hnames hround expansion).bind
        intro gathered gathered' hgathered
        dsimp only
        rw [hgathered.1]
        exact ih hgathered.2 _

theorem agrees_expandImports (hlike : site.ReadsLike site') (hnames : site.PlainNames)
    {config config' : OwnerConfig} (hconfig : config.unnamed = config'.unnamed) (revision : String)
    (depth : Nat) :
    Agrees site site' (fun expanded other => expanded.unnamed = other.unnamed)
      (expandImports site config revision depth) (expandImports site' config' revision depth) := by
  have hkey := OwnerConfig.key_of_unnamed hconfig
  unfold expandImports
  rw [← OwnerConfig.imports_of_unnamed hconfig, ← OwnerConfig.sets_of_unnamed hconfig,
    ← OwnerConfig.ignoresParents_of_unnamed hconfig]
  split
  · exact agrees_pure hconfig
  · have hround : (config.imports.map fun imp => { imp, importer := config.key, revision :
          Pending }).map Pending.unnamed =
        (config.imports.map fun imp => { imp, importer := config'.key, revision :
          Pending }).map Pending.unnamed := by
      rw [List.map_map, List.map_map]
      apply List.map_congr_left
      intro imp _
      dsimp only [Function.comp, Pending.unnamed]
      rw [hkey]
    apply (agrees_followRounds hlike hnames hround _ depth).bind
    intro expansion expansion' hsame
    apply agrees_pure
    unfold OwnerConfig.unnamed
    dsimp only
    rw [hsame, hkey]

/-!
# Climbs
-/

def Level.unnamed (level : Level) : Level := { level with config := level.config.unnamed }

structure Prepared (site : Site) (place : Place) (climb : Climb) : Prop where
  project : climb.project = place.project
  branch : climb.branch = place.branch
  revision : climb.revision = place.revision
  path : Path.normalize place.path = .ok climb.path
  folders : Path.ancestorFolders climb.path = .ok climb.folders
  backend : site.backendFor climb.project climb.branch = .ok climb.backend
  fileName : site.configFileName climb.project climb.branch = .ok climb.fileName
  importDepth : climb.importDepth = (site.configs.get place.project).maxImportDepth

theorem prepared_of_prepare {place : Place} {climb : Climb} (h : prepare site place = .ok climb) :
    Prepared site place climb := by
  rcases except_bind_eq_ok.mp h with ⟨path, hpath, hrest⟩
  rcases except_bind_eq_ok.mp hrest with ⟨backend, hbackend, hrest⟩
  rcases except_bind_eq_ok.mp hrest with ⟨name, hname, hrest⟩
  rcases except_bind_eq_ok.mp hrest with ⟨folders, hfolders, hend⟩
  cases hend
  exact ⟨rfl, rfl, rfl, except_mapError_eq_ok.mp hpath, except_mapError_eq_ok.mp hfolders,
    hbackend, hname, rfl⟩

theorem prepare_of_readsLike (hlike : site.ReadsLike site') (place : Place) :
    prepare site' place = prepare site place := by
  unfold prepare
  rw [hlike.backendFor, hlike.configFileName, hlike.configs]

def folderKey (climb : Climb) (folder : String) : Except Failure ConfigKey :=
  (ConfigKey.create climb.project climb.branch folder (some climb.fileName)).mapError
    (Failure.field "folder_path")

theorem levelAt?_eq (site : Site) (climb : Climb) (folder : String) (distance : Nat) :
    levelAt? site climb folder distance = (liftExcept (folderKey climb folder) >>= fun key =>
      Loader.loadOrSkip site.tree climb.backend key climb.revision >>= fun
        | none => pure none
        | some config => expandImports site config climb.revision climb.importDepth >>= fun config =>
            pure (some { config, distance })) := rfl

theorem folderKey_eq_ok {climb : Climb} {folder : String} {key : ConfigKey}
    (h : folderKey climb folder = .ok key) :
    key.project = climb.project ∧ key.branch = climb.branch ∧
      key.fileName = some climb.fileName ∧ key.folder ≠ "" :=
  ConfigKey.create_eq_ok (except_mapError_eq_ok.mp h)

theorem looksUp_of_folderKey (hnames : site.PlainNames) {place : Place} {climb : Climb}
    (hclimb : Prepared site place climb) {folder : String} {key : ConfigKey}
    (hkey : folderKey climb folder = .ok key) : site.LooksUp climb.backend key := by
  rcases folderKey_eq_ok hkey with ⟨hproject, hbranch, hname, hfolder⟩
  have hbackend := hclimb.backend
  rw [← hproject, ← hbranch] at hbackend
  refine ⟨hbackend, ConfigKey.isPlain_of_names hfolder (hnames.default _ _ _ hbackend) ?_⟩
  intro name hmem
  rw [hname] at hmem
  cases hmem
  exact hnames.config _ _ _ hclimb.fileName

theorem agrees_levelAt? (hlike : site.ReadsLike site') (hnames : site.PlainNames) {place : Place}
    {climb : Climb} (hclimb : Prepared site place climb) (folder : String) (distance : Nat) :
    Agrees site site' (fun found other => found.map Level.unnamed = other.map Level.unnamed)
      (levelAt? site climb folder distance) (levelAt? site' climb folder distance) := by
  rw [levelAt?_eq, levelAt?_eq]
  apply agrees_lift_bind
  intro key hkey
  apply (agrees_loadOrSkip hlike (looksUp_of_folderKey hnames hclimb hkey) climb.revision).bind
  intro found other hsame
  unfold SameConfig at hsame
  cases found with
  | none =>
      cases other with
      | none => exact agrees_pure rfl
      | some config => cases hsame
  | some config =>
      cases other with
      | none => cases hsame
      | some config' =>
          rw [Option.map_some, Option.map_some, Option.some.injEq] at hsame
          apply (agrees_expandImports hlike hnames hsame climb.revision climb.importDepth).bind
          intro expanded expanded' hexpanded
          apply agrees_pure
          unfold Level.unnamed
          rw [Option.map_some, Option.map_some, hexpanded]

/-!
# Visits
-/

inductive SameStep (R : β → γ → Prop) : ForInStep β → ForInStep γ → Prop
  | done {state : β} {other : γ} : R state other → SameStep R (.done state) (.done other)
  | yield {state : β} {other : γ} : R state other → SameStep R (.yield state) (.yield other)

theorem isLast_unnamed (climb : Climb) (level : Level) :
    isLast climb level.unnamed = isLast climb level := rfl

theorem agrees_visitFolders (hlike : site.ReadsLike site') (hnames : site.PlainNames)
    {R : β → γ → Prop} {visit : β → Level → Walk (ForInStep β)}
    {visit' : γ → Level → Walk (ForInStep γ)}
    (hvisit : ∀ state other level level', R state other → level.unnamed = level'.unnamed →
      Agrees site site' (SameStep R) (visit state level) (visit' other level'))
    {place : Place} {climb : Climb} (hclimb : Prepared site place climb) (distance : Nat)
    (folders : List String) {state : β} {other : γ} (hstate : R state other) :
    Agrees site site' R (visitFolders site climb visit distance folders state)
      (visitFolders site' climb visit' distance folders other) := by
  induction folders generalizing distance state other with
  | nil => exact agrees_pure hstate
  | cons folder rest ih =>
      rw [visitFolders_cons, visitFolders_cons]
      apply (agrees_levelAt? hlike hnames hclimb folder distance).bind
      intro found found' hsame
      cases found with
      | none =>
          cases found' with
          | none => exact ih (distance + 1) hstate
          | some level => cases hsame
      | some level =>
          cases found' with
          | none => cases hsame
          | some level' =>
              rw [Option.map_some, Option.map_some, Option.some.injEq] at hsame
              dsimp only
              apply (hvisit state other level level' hstate hsame).bind
              intro step step' hstep
              cases hstep with
              | done hnext => exact agrees_pure hnext
              | yield hnext =>
                  dsimp only
                  rw [← isLast_unnamed climb level', ← hsame, isLast_unnamed]
                  apply agrees_lift_bind
                  intro ends _
                  split
                  · exact agrees_pure hnext
                  · exact ih (distance + 1) hnext

theorem agrees_visitLevels (hlike : site.ReadsLike site') (hnames : site.PlainNames)
    {R : β → γ → Prop} {visit : β → Level → Walk (ForInStep β)}
    {visit' : γ → Level → Walk (ForInStep γ)}
    (hvisit : ∀ state other level level', R state other → level.unnamed = level'.unnamed →
      Agrees site site' (SameStep R) (visit state level) (visit' other level'))
    (place : Place) {start : β} {start' : γ} (hstart : R start start') :
    Agrees site site' R (visitLevels site place start visit)
      (visitLevels site' place start' visit') := by
  unfold visitLevels
  rw [prepare_of_readsLike hlike]
  apply agrees_lift_bind
  intro climb hprepare
  exact agrees_visitFolders hlike hnames hvisit (prepared_of_prepare hprepare) 0 climb.folders hstart

theorem agrees_levels (hlike : site.ReadsLike site') (hnames : site.PlainNames) (place : Place) :
    Agrees site site' (fun levels others => levels.map Level.unnamed = others.map Level.unnamed)
      (levels site place) (levels site' place) := by
  unfold levels
  refine agrees_visitLevels hlike hnames ?_ place rfl
  intro levels others level level' hlevels hlevel
  apply agrees_pure
  apply SameStep.yield
  rw [List.map_append, List.map_append, hlevels, List.map_singleton, List.map_singleton, hlevel]

end Hierarchy
end Ownership
