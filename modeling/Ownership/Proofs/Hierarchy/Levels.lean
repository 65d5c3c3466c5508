import Mathlib.Data.List.ReduceOption
import Ownership.Proofs.Hierarchy.Sound

/-!
# The levels of a path

The levels of a path are what stands in the folders above it, nearest first, up to the first level
that ends the climb.  A folder whose file is missing or broken has no level.  All this is so for a
path whose folders do not end with a blank; below a folder that does, a climb can fail.
-/

namespace Ownership
namespace Hierarchy

open Walk Ownership.Path

variable {digest : String → String} {history : History} {configs : ProjectConfigs} {place : Place}
  {climb : Climb} {s : Session} {parts above rest : List (List Char)} {level : Level}

/-!
# Where a climb ends
-/

/-- All levels up to the first that ends the climb. -/
inductive CutAfter (ends : Level → Prop) : List Level → List Level → Prop
  | none : CutAfter ends [] []
  | last {level : Level} {rest : List Level} : ends level → CutAfter ends (level :: rest) [level]
  | pass {level : Level} {rest levels : List Level} : ¬ ends level → CutAfter ends rest levels →
      CutAfter ends (level :: rest) (level :: levels)

theorem CutAfter.congr {ends ends' : Level → Prop} {all levels : List Level}
    (h : CutAfter ends all levels) (hiff : ∀ level ∈ all, ends level ↔ ends' level) :
    CutAfter ends' all levels := by
  induction h with
  | none => exact .none
  | last hends => exact .last ((hiff _ List.mem_cons_self).mp hends)
  | pass hnot _ ih =>
      refine .pass (fun hends => hnot ((hiff _ List.mem_cons_self).mpr hends)) (ih ?_)
      exact fun level hlevel => hiff level (List.mem_cons_of_mem _ hlevel)

def IsBelow (folder path relative : String) : Prop :=
  path = (if folder = "/" then "/" else folder ++ "/") ++ relative

/-- The level cuts itself off for all paths, or a set of it does so for this one. -/
def EndsAbove (path : String) (level : Level) : Prop :=
  level.config.ignoresParents = true ∨ ∃ relative, IsBelow level.folder path relative ∧
    ∃ set ∈ level.config.sets, set.overrides = true ∧ set.isFor relative = true

theorem IsBelow.unique {folder path relative other : String} (h : IsBelow folder path relative)
    (hother : IsBelow folder path other) : relative = other := by
  unfold IsBelow at h hother
  rw [h] at hother
  have hletters := congrArg String.toList hother
  rw [String.toList_append, String.toList_append] at hletters
  exact String.toList_inj.mp (List.append_cancel_left hletters)

theorem isBelow_ofParts (habove : ∀ part ∈ above, IsSolid part) (hbelow : above = [] ∨ rest ≠ []) :
    IsBelow (ofParts above) (ofParts (above ++ rest)) (String.ofList (Text.joinWith '/' rest)) := by
  unfold IsBelow
  apply String.toList_inj.mp
  rw [String.toList_append, String.toList_ofList, toList_ofParts]
  cases above using List.reverseRecOn with
  | nil =>
      have hroot : ofParts [] = "/" := rfl
      rw [if_pos hroot]
      rfl
  | append_singleton folders last =>
      have hrest : rest ≠ [] := hbelow.resolve_left (by simp)
      rw [if_neg (ofParts_ne_root folders (habove last (by simp)).nonempty), String.toList_append,
        toList_ofParts, ofComponents_eq_slashed (by simp), ofComponents_eq_slashed (by simp),
        slashed_append _ rest, ← ofComponents_eq_slashed hrest, List.append_assoc]
      rfl

theorem overridesFor_of_relativeTo {config : OwnerConfig} {path relative : String}
    (h : relativeTo config.key.folder path = .ok relative) :
    config.overridesFor path =
      .ok (config.sets.any fun set => set.isFor relative && set.overrides) := by
  unfold OwnerConfig.overridesFor OwnerConfig.setsFor
  rw [h]
  change Except.ok ((config.sets.filter fun set => set.isFor relative).any _) = _
  rw [List.any_filter]

theorem endsClimb_of_relativeTo {path relative : String}
    (h : relativeTo level.folder path = .ok relative) :
    ∃ ends, level.endsClimb path = .ok ends ∧ (ends = true ↔ level.config.ignoresParents = true ∨
      ∃ set ∈ level.config.sets, set.overrides = true ∧ set.isFor relative = true) := by
  unfold Level.endsClimb
  cases hflag : level.config.ignoresParents with
  | true => exact ⟨true, rfl, by simp⟩
  | false =>
      refine ⟨_, overridesFor_of_relativeTo h, ?_⟩
      rw [List.any_eq_true]
      simp only [Bool.and_eq_true, Bool.false_eq_true, false_or, and_comm]

theorem endsClimb_iff {path relative : String} (h : relativeTo level.folder path = .ok relative)
    (hbelow : IsBelow level.folder path relative) :
    level.endsClimb path = .ok true ↔ EndsAbove path level := by
  rcases endsClimb_of_relativeTo h with ⟨ends, hends, hiff⟩
  unfold EndsAbove
  rw [hends, Except.ok.injEq, hiff]
  constructor
  · exact fun hcases => hcases.imp_right fun hset => ⟨relative, hbelow, hset⟩
  · intro hcases
    refine hcases.imp_right fun hsome => ?_
    rcases hsome with ⟨other, hother, hset⟩
    rw [hbelow.unique hother]
    exact hset

/-!
# Climbing over solid folders
-/

theorem folder_eq_of_stands {site : Site} {folder : String} {distance : Nat}
    (h : Stands site climb folder distance (some level)) : level.folder = folder := by
  cases h with
  | sound _ _ _ _ hfolder => exact hfolder

theorem climbs_cons {site : Site} {folder : String} {folders : List String} {distance : Nat}
    {found : Option Level} {founds : List (Option Level)} {levels : List Level} {t s' : Session}
    (hrun : (levelAt? site climb folder distance).run s = (.ok found, t))
    (hfound : ∀ level ∈ found, level.folder = folder ∧
      ∃ ends, level.endsClimb climb.path = .ok ends)
    (hclimbs : Climbs site climb (distance + 1) folders t levels true s')
    (hcut : CutAfter (fun level => level.endsClimb climb.path = .ok true) founds.reduceOption
      levels)
    (hsub : (levels.map Level.folder).Sublist folders) :
    ∃ levels s', Climbs site climb distance (folder :: folders) s levels true s' ∧
      CutAfter (fun level => level.endsClimb climb.path = .ok true)
        (found :: founds).reduceOption levels ∧
      (levels.map Level.folder).Sublist (folder :: folders) := by
  cases found with
  | none =>
      rw [List.reduceOption_cons_of_none]
      exact ⟨levels, s', .skip hrun hclimbs, hcut, hsub.cons folder⟩
  | some level =>
      rw [List.reduceOption_cons_of_some]
      rcases hfound level rfl with ⟨hfolder, ends, hlevel⟩
      cases ends with
      | true =>
          refine ⟨[level], t, .last hrun hlevel, .last hlevel, ?_⟩
          rw [List.map_singleton, hfolder]
          exact (List.nil_sublist folders).cons_cons folder
      | false =>
          refine ⟨level :: levels, s', .pass hrun hlevel hclimbs, .pass (fun htrue => ?_) hcut, ?_⟩
          · rw [hlevel] at htrue
            cases htrue
          · rw [List.map_cons, hfolder]
            exact hsub.cons_cons folder

/-- The levels of a climb, told by what stands in all of its folders. -/
theorem climbs_of_folders (hmade : History.Made digest history)
    (hnames : (history.site configs).SolidNames)
    (hclimb : Prepared (history.site configs) place climb) {snapshot : Snapshot}
    (hrevision : history.snapshotAt? place.project place.revision = some snapshot)
    {folders : List String} (hfolders : ∀ folder ∈ folders, IsSolidPath folder)
    (hends : ∀ level : Level, level.folder ∈ folders →
      ∃ ends, level.endsClimb climb.path = .ok ends)
    (distance : Nat) (hs : s.Faithful (history.site configs)) :
    ∃ founds levels s', Climbs (history.site configs) climb distance folders s levels true s' ∧
      List.Forall₂ (fun here found => Stands (history.site configs) climb here.1 here.2 found)
        (folders.zipIdx distance) founds ∧
      CutAfter (fun level => level.endsClimb climb.path = .ok true) founds.reduceOption levels ∧
      (levels.map Level.folder).Sublist folders := by
  induction folders generalizing distance s with
  | nil => exact ⟨[], [], s, .top, .nil, .none, List.Sublist.refl []⟩
  | cons folder rest ih =>
      have hhere := succeeds_levelAt? hmade hnames hclimb hrevision
        (hfolders folder List.mem_cons_self) distance
      rcases hhere s hs with ⟨found, t, hrun, ht, hstands⟩
      have hrest : ∀ other ∈ rest, IsSolidPath other := fun other hother =>
        hfolders other (List.mem_cons_of_mem folder hother)
      have hendsRest : ∀ level : Level, level.folder ∈ rest →
          ∃ ends, level.endsClimb climb.path = .ok ends := fun level hlevel =>
        hends level (List.mem_cons_of_mem folder hlevel)
      rcases ih hrest hendsRest (distance + 1) ht with
        ⟨founds, levels, s', hclimbs, hall, hcut, hsub⟩
      have hfound : ∀ level ∈ found, level.folder = folder ∧
          ∃ ends, level.endsClimb climb.path = .ok ends := by
        intro level hlevel
        rw [Option.mem_def.mp hlevel] at hstands
        have hfolder := folder_eq_of_stands hstands
        exact ⟨hfolder, hends level (hfolder ▸ List.mem_cons_self)⟩
      rcases climbs_cons hrun hfound hclimbs hcut hsub with ⟨levels, s', hclimbs, hcut, hsub⟩
      refine ⟨found :: founds, levels, s', hclimbs, ?_, hcut, hsub⟩
      rw [List.zipIdx_cons]
      exact .cons hstands hall

/-!
# Preparing a climb
-/

theorem prepare_of_folders (hnames : (history.site configs).SolidNames) {normal : String}
    (hpath : normalize place.path = .ok normal) {folders : List String}
    (hfolders : ancestorFolders normal = .ok folders) :
    ∃ climb, prepare (history.site configs) place = .ok climb ∧ climb.path = normal ∧
      climb.folders = folders := by
  rcases hnames.backend place.project place.branch with ⟨backend, hbackend, _⟩
  rcases hnames.config place.project place.branch with ⟨name, hname, _⟩
  unfold prepare
  rw [hpath, hbackend, hname]
  change ∃ climb, ((ancestorFolders normal).mapError Failure.path >>= _) = _ ∧ _
  rw [hfolders]
  exact ⟨_, rfl, rfl, rfl⟩

theorem isSolidPath_of_mem_foldersAbove (h : ∀ part ∈ parts, IsSolid part) {folder : String}
    (hfolder : folder ∈ foldersAbove parts) : IsSolidPath folder := by
  rcases mem_foldersAbove.mp hfolder with ⟨above, habove, rfl⟩
  exact ⟨above, rfl, fun part hpart => h part (List.dropLast_subset parts (habove.mem hpart))⟩

theorem relativeTo_of_dropLast {path : String} (hpath : normalize path = .ok (ofParts parts))
    (h : ∀ part ∈ parts.dropLast, IsSolid part) {above : List (List Char)}
    (habove : above <+: parts.dropLast) :
    ∃ relative, relativeTo (ofParts above) path = .ok relative ∧
      IsBelow (ofParts above) (ofParts parts) relative := by
  have hsolid : ∀ part ∈ above, IsSolid part := fun part hpart => h part (habove.mem hpart)
  rcases exists_below habove with ⟨rest, rfl, hbelow⟩
  exact ⟨_, relativeTo_ofParts hpath hsolid hbelow, isBelow_ofParts hsolid hbelow⟩

theorem folder_of_stands {site : Site} {folders : List String} {distance : Nat}
    {founds : List (Option Level)}
    (h : List.Forall₂ (fun here found => Stands site climb here.1 here.2 found)
      (folders.zipIdx distance) founds) (hlevel : some level ∈ founds) :
    level.folder ∈ folders := by
  induction folders generalizing distance founds with
  | nil =>
      cases h
      cases hlevel
  | cons folder rest ih =>
      rw [List.zipIdx_cons] at h
      cases h with
      | cons hstands hrest =>
          rcases List.mem_cons.mp hlevel with rfl | hlater
          · exact folder_eq_of_stands hstands ▸ List.mem_cons_self
          · exact List.mem_cons_of_mem folder (ih hrest hlater)

/-- A climb comes to its end if normalizing the path a second time leaves it with solid
components. -/
theorem shows_of_path {normal : String} {snapshot : Snapshot}
    (hmade : History.Made digest history) (hnames : (history.site configs).SolidNames)
    (hrevision : history.snapshotAt? place.project place.revision = some snapshot)
    (hpath : normalize place.path = .ok normal) (hagain : normalize normal = .ok (ofParts parts))
    (hparts : ∀ part ∈ parts, IsSolid part) (hs : s.Faithful (history.site configs)) :
    ∃ climb founds levels s', prepare (history.site configs) place = .ok climb ∧
      climb.folders = foldersAbove parts ∧
      List.Forall₂ (fun here found => Stands (history.site configs) climb here.1 here.2 found)
        climb.folders.zipIdx founds ∧
      (Hierarchy.levels (history.site configs) place).run s = (.ok levels, s') ∧
      CutAfter (fun level => level.endsClimb normal = .ok true) founds.reduceOption levels ∧
      (levels.map Level.folder).Sublist climb.folders := by
  rcases prepare_of_folders hnames hpath (ancestorFolders_of_normalize hagain hparts) with
    ⟨climb, hprepare, rfl, hclimbFolders⟩
  have hfolders : ∀ folder ∈ climb.folders, IsSolidPath folder := by
    rw [hclimbFolders]
    exact fun folder => isSolidPath_of_mem_foldersAbove hparts
  have hends : ∀ level : Level, level.folder ∈ climb.folders →
      ∃ ends, level.endsClimb climb.path = .ok ends := by
    intro level hlevel
    rw [hclimbFolders] at hlevel
    rcases mem_foldersAbove.mp hlevel with ⟨above, habove, hfolder⟩
    rcases relativeTo_of_dropLast hagain
      (fun part hpart => hparts part (List.dropLast_subset parts hpart)) habove with
      ⟨relative, hrelative, _⟩
    rw [hfolder] at hrelative
    rcases endsClimb_of_relativeTo hrelative with ⟨ends, hends, _⟩
    exact ⟨ends, hends⟩
  rcases climbs_of_folders hmade hnames (prepared_of_prepare hprepare) hrevision hfolders hends 0 hs
    with ⟨founds, levels, s', hclimbs, hstands, hcut, hsub⟩
  have hshows : Shows (history.site configs) place s levels true s' := ⟨climb, hprepare, hclimbs⟩
  exact ⟨climb, founds, levels, s', hprepare, hclimbFolders, hstands, hshows.run_levels, hcut, hsub⟩

/-!
# The levels of a solid path

The levels are the same for another site in which every file reads alike, so that a file may be
broken in one of them and missing in the other.
-/

theorem levels_of_folders {normal : String} {snapshot : Snapshot}
    (hmade : History.Made digest history) (hconfigs : ∀ project, (configs.get project).IsBuiltIn)
    (hrevision : history.snapshotAt? place.project place.revision = some snapshot)
    (hpath : normalize place.path = .ok normal)
    (hsolid : ∀ part ∈ components normal.toList, ∀ c ∈ part.getLast?, Text.isBlank c = false)
    (hs : s.Faithful (history.site configs)) :
    ∃ climb founds levels s', prepare (history.site configs) place = .ok climb ∧
      climb.folders = foldersAbove (components normal.toList) ∧ climb.folders.Nodup ∧
      List.Forall₂ (fun here found => Stands (history.site configs) climb here.1 here.2 found)
        climb.folders.zipIdx founds ∧
      (Hierarchy.levels (history.site configs) place).run s = (.ok levels, s') ∧
      s'.Faithful (history.site configs) ∧
      CutAfter (EndsAbove normal) founds.reduceOption levels ∧
      (levels.map Level.folder).Sublist climb.folders ∧
      ∀ site' t, (history.site configs).ReadsLike site' → t.Faithful site' →
        ∃ others t', (Hierarchy.levels site' place).run t = (.ok others, t') ∧
          others.map Level.unnamed = levels.map Level.unnamed := by
  have hnames := solidNames_of_builtIn history hconfigs
  rcases exists_parts hpath with ⟨parts, rfl, hparts⟩
  rw [toList_ofParts, components_ofComponents hparts] at hsolid ⊢
  have hall : ∀ part ∈ parts, IsSolid part := fun part hpart =>
    ⟨hparts part hpart, hsolid part hpart⟩
  have hagain := normalize_ofParts hall
  rcases shows_of_path hmade hnames hrevision hpath hagain hall hs with
    ⟨climb, founds, levels, s', hprepare, hfolders, hstands, hrun, hcut, hsub⟩
  have hs' := (agrees_levels (.refl _) hnames.plainNames place s s hs hs).1
  rw [hrun] at hs'
  refine ⟨climb, founds, levels, s', hprepare, hfolders, ?_, hstands, hrun, hs', ?_, hsub,
    fun site' t hlike ht => ?_⟩
  · rw [hfolders]
    exact nodup_foldersAbove hparts
  · apply hcut.congr
    intro level hlevel
    have hfolder := folder_of_stands hstands (List.reduceOption_mem_iff.mp hlevel)
    rw [hfolders] at hfolder
    rcases mem_foldersAbove.mp hfolder with ⟨above, habove, hlevelFolder⟩
    rcases relativeTo_of_dropLast hagain
      (fun part hpart => hall part (List.dropLast_subset parts hpart)) habove with
      ⟨relative, hrelative, hbelow⟩
    rw [hlevelFolder] at hrelative hbelow
    exact endsClimb_iff hrelative hbelow
  · have halike := (agrees_levels hlike hnames.plainNames place s t hs ht).2.2
    rw [hrun] at halike
    rcases hrun' : (Hierarchy.levels site' place).run t with ⟨outcome, t'⟩
    rw [hrun'] at halike
    cases halike with
    | done hsame => exact ⟨_, t', rfl, hsame.symm⟩

/-!
# A river

The file of the dam is broken, and that of the bridge cuts itself off from the folders above.
-/

def riverCommit : Except PathError (String × History) :=
  History.commitWith id {} "river" "main" ⟨[
    ("/OWNERS", some "ann@river\n".toUTF8.toList),
    ("/bridge/OWNERS", some "set noparent\nbob@river\n".toUTF8.toList),
    ("/bridge/dam/OWNERS", some [255]),
    ("/bridge/dam/lock/OWNERS", some "include /team\n".toUTF8.toList),
    ("/team", some "eve@river\n".toUTF8.toList)]⟩

def river : History := (riverCommit.toOption.map Prod.snd).getD {}

def riverPlace : Place where
  project := "river"
  branch := "main"
  revision := "river|main|1"
  path := "/bridge//dam/./lock/gate"

theorem made_of_commit {before : History} (hbefore : History.Made digest before)
    {commit : Except PathError (String × History)} {project branch : String}
    {files : Table String (Option Content)}
    (h : commit = History.commitWith digest before project branch files) :
    History.Made digest ((commit.toOption.map Prod.snd).getD before) := by
  cases hcommit : commit with
  | error defect => exact hbefore
  | ok made => exact .commit hbefore (h.symm.trans hcommit)

theorem river_made : History.Made id river :=
  made_of_commit .start (rfl : riverCommit = _)

theorem default_settings (project : String) : (({} : ProjectConfigs).get project).IsBuiltIn :=
  default_isBuiltIn

theorem ends_of_all (h : (parts.all fun part => part.getLast?.all fun c => !Text.isBlank c) = true) :
    ∀ part ∈ parts, ∀ c ∈ part.getLast?, Text.isBlank c = false := by
  intro part hpart c hc
  have hlast := List.all_eq_true.mp h part hpart
  rw [Option.mem_def.mp hc] at hlast
  simpa using hlast

theorem river_levels :
    ∃ climb founds levels s', prepare (river.site {}) riverPlace = .ok climb ∧
      List.Forall₂ (fun here found => Stands (river.site {}) climb here.1 here.2 found)
        climb.folders.zipIdx founds ∧
      (Hierarchy.levels (river.site {}) riverPlace).run {} = (.ok levels, s') ∧
      CutAfter (EndsAbove "/bridge/dam/lock/gate") founds.reduceOption levels ∧
      levels.map (fun level => (level.folder, level.distance)) =
        [("/bridge/dam/lock", 0), ("/bridge", 2)] := by
  have hsnapshot : (river.snapshotAt? "river" "river|main|1").isSome = true := by decide +kernel
  have hpath : normalize riverPlace.path = .ok "/bridge/dam/lock/gate" := by decide +kernel
  have hsolid : ∀ part ∈ components "/bridge/dam/lock/gate".toList,
      ∀ c ∈ part.getLast?, Text.isBlank c = false := ends_of_all (by decide +kernel)
  have hfound : (((Hierarchy.levels (river.site {}) riverPlace).run {}).1.toOption.map
      fun levels => levels.map fun level => (level.folder, level.distance)) =
        some [("/bridge/dam/lock", 0), ("/bridge", 2)] := by decide +kernel
  rcases Option.isSome_iff_exists.mp hsnapshot with ⟨snapshot, hrevision⟩
  rcases levels_of_folders river_made default_settings hrevision hpath hsolid
    (Session.faithful_empty _) with
    ⟨climb, founds, levels, s', hprepare, _, _, hstands, hrun, _, hcut, _, _⟩
  refine ⟨climb, founds, levels, s', hprepare, hstands, hrun, hcut, ?_⟩
  rw [hrun] at hfound
  exact Option.some.inj hfound

/-!
# A path that ends with a blank

The last component of a path may end with a blank, and may even be blank altogether: it is left
behind at the first step of the climb.
-/

theorem normalize_of_solid_folders (hparts : ∀ part ∈ parts, IsComponent part)
    (hfolders : ∀ part ∈ parts.dropLast, IsSolid part)
    (hlast : ∀ part ∈ parts.getLast?, Text.trimRight part ≠ ['.', '.']) :
    ∃ others, normalize (ofParts parts) = .ok (ofParts others) ∧
      (∀ part ∈ others, IsSolid part) ∧ others.dropLast <+: parts.dropLast := by
  cases parts using List.reverseRecOn with
  | nil => exact ⟨[], rfl, by simp, List.prefix_rfl⟩
  | append_singleton above last =>
      rw [List.dropLast_concat] at hfolders ⊢
      rcases normalize_again hfolders (hparts last (by simp)) (hlast last (by simp)) with
        ⟨rest, hagain, hshort, hrest⟩
      refine ⟨above ++ rest, hagain, fun part hpart => ?_, ?_⟩
      · rcases List.mem_append.mp hpart with hmem | hmem
        · exact hfolders part hmem
        · exact hrest part hmem
      · rcases rest with _ | ⟨kept, _ | ⟨next, others⟩⟩
        · rw [List.append_nil]
          exact List.dropLast_prefix above
        · rw [List.dropLast_concat]
        · simp at hshort

/-- Nothing fails on the way up and at the levels, whatever the tree holds, if no folder of the path
ends with a blank. -/
theorem levels_never_fail {normal : String} {snapshot : Snapshot} (resolver : Resolver)
    (hmade : History.Made digest history)
    (hrevision : history.snapshotAt? place.project place.revision = some snapshot)
    (hpath : normalize place.path = .ok normal)
    (hfolders : ∀ part ∈ (components normal.toList).dropLast,
      ∀ c ∈ part.getLast?, Text.isBlank c = false)
    (hlast : ∀ part ∈ (components normal.toList).getLast?, Text.trimRight part ≠ ['.', '.'])
    (hs : s.Faithful (history.site {})) :
    ∃ levels s', (Hierarchy.levels (history.site {}) place).run s = (.ok levels, s') ∧
      (levels.map Level.folder).Nodup ∧
      ∀ level ∈ levels,
        (level.folder = "/" ∨ ∃ relative, normal = level.folder ++ "/" ++ relative) ∧
        (∃ owners, resolver.pathOwners level.config place.path = .ok owners) ∧
        ∃ ignores, level.ignoresGlobalOwners place.path = .ok ignores := by
  have hnames := solidNames_of_builtIn history default_settings
  rcases exists_parts hpath with ⟨parts, rfl, hparts⟩
  rw [toList_ofParts, components_ofComponents hparts] at hfolders hlast
  have hsolid : ∀ part ∈ parts.dropLast, IsSolid part := fun part hpart =>
    ⟨hparts part (List.dropLast_subset parts hpart), hfolders part hpart⟩
  rcases normalize_of_solid_folders hparts hsolid hlast with ⟨others, hagain, hothers, hshorter⟩
  rcases shows_of_path hmade hnames hrevision hpath hagain hothers hs with
    ⟨climb, founds, levels, s', _, hclimbFolders, _, hrun, _, hsub⟩
  refine ⟨levels, s', hrun, ?_, fun level hlevel => ?_⟩
  · rw [hclimbFolders] at hsub
    exact hsub.nodup (nodup_foldersAbove fun part hpart => (hothers part hpart).toIsComponent)
  · have hfolder := hsub.subset (List.mem_map_of_mem hlevel)
    rw [hclimbFolders] at hfolder
    rcases mem_foldersAbove.mp hfolder with ⟨above, habove, hlevelFolder⟩
    -- The folder is compared with the path as it was given and as it is after the second time.
    rcases relativeTo_of_dropLast hpath hsolid (habove.trans hshorter) with
      ⟨relative, hrelative, hbelow⟩
    rcases relativeTo_of_dropLast hagain
      (fun part hpart => hothers part (List.dropLast_subset others hpart)) habove with
      ⟨relative', hrelative', _⟩
    rw [hlevelFolder] at hrelative hbelow hrelative'
    refine ⟨?_, ?_, _, overridesFor_of_relativeTo hrelative⟩
    · unfold IsBelow at hbelow
      split at hbelow
      · rename_i hroot
        exact .inl hroot
      · exact .inr ⟨relative, hbelow⟩
    · unfold Resolver.pathOwners OwnerConfig.setsFor
      rw [hpath]
      change ∃ owners, ((relativeTo level.folder (ofParts parts) >>= _) >>= _) = .ok owners
      rw [hrelative']
      exact ⟨_, rfl⟩

def gatePlace : Place := { riverPlace with path := "/bridge/dam/lock/gate /" }

theorem river_never_fails :
    ∃ levels s', (Hierarchy.levels (river.site {}) gatePlace).run {} = (.ok levels, s') ∧
      (levels.map Level.folder).Nodup ∧
      ∀ level ∈ levels,
        ∃ owners, ({} : Resolver).pathOwners level.config gatePlace.path = .ok owners := by
  have hsnapshot : (river.snapshotAt? "river" "river|main|1").isSome = true := by decide +kernel
  have hpath : normalize gatePlace.path = .ok "/bridge/dam/lock/gate " := by decide +kernel
  have hfolders : ∀ part ∈ (components "/bridge/dam/lock/gate ".toList).dropLast,
      ∀ c ∈ part.getLast?, Text.isBlank c = false := ends_of_all (by decide +kernel)
  have hlast : ∀ part ∈ (components "/bridge/dam/lock/gate ".toList).getLast?,
      Text.trimRight part ≠ ['.', '.'] := by decide +kernel
  rcases Option.isSome_iff_exists.mp hsnapshot with ⟨snapshot, hrevision⟩
  rcases levels_never_fail {} river_made hrevision hpath hfolders hlast
    (Session.faithful_empty _) with ⟨levels, s', hrun, hnodup, hlevels⟩
  exact ⟨levels, s', hrun, hnodup, fun level hlevel => (hlevels level hlevel).2.1⟩

/-!
# A folder that ends with a blank

Normalizing the path of an orchard's basket leaves a blank at the end of its folder.  The blank is
lost when the folder is looked up, so that the level of another folder is found, and the path does
not lie below that one.
-/

def orchardCommit : Except PathError (String × History) :=
  History.commit {} "orchard" "main" ⟨[("/a/OWNERS", some "ann@orchard\n".toUTF8.toList)]⟩

def orchard : History := (orchardCommit.toOption.map Prod.snd).getD {}

def orchardPlace : Place where
  project := "orchard"
  branch := "main"
  revision := "d9d9466cc60056f1fcff27d13d4eb44cc6ad1547"
  path := "/a /x"

theorem blank_folder_fails :
    History.Made Text.fingerprint orchard ∧
      (∃ snapshot, orchard.snapshotAt? orchardPlace.project orchardPlace.revision =
        some snapshot) ∧
      normalize orchardPlace.path = .ok "/a /x" ∧
      ((Hierarchy.levels (orchard.site {}) orchardPlace).run {}).1 =
        .error (.path ⟨"/a /x", .outside "/a"⟩) := by
  have hsnapshot : (orchard.snapshotAt? "orchard" orchardPlace.revision).isSome = true := by
    decide +kernel
  have hmade : History.Made Text.fingerprint orchard :=
    made_of_commit .start (rfl : orchardCommit = _)
  refine ⟨hmade, Option.isSome_iff_exists.mp hsnapshot, ?_, ?_⟩
  · decide +kernel
  · decide +kernel

end Hierarchy
end Ownership
