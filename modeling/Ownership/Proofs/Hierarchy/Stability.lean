import Ownership.Proofs.Hierarchy.Levels

/-!
# Climbs and later commits

What is read at a revision never changes.  Later commits to a branch show in a climb at an old
revision only where the climb asks for the head of this branch, and it does so only for an import
that comes back into the branch from another one.  Without such an import the climb reads the same
files, step by step.
-/

namespace Ownership

open Walk

variable {α β : Type} {digest : String → String} {history later : History}
  {configs : ProjectConfigs} {s s' final : Session}

/-!
# Walks that read the same
-/

namespace Walk

/-- From every session the second walk comes to the same end as the first, as long as this end is
within what a final session remembers. -/
def SameWithin (final : Session) (x y : Walk α) : Prop :=
  ∀ s outcome s', x.run s = (outcome, s') → s' ≤ final → y.run s = (outcome, s')

theorem SameWithin.of_eq {x y : Walk α} (h : y = x) : SameWithin final x y := by
  intro s outcome s' hrun _
  rw [h]
  exact hrun

theorem SameWithin.bind {tree : Tree} {x y : Walk α} {f g : α → Walk β} (hx : Loads tree x)
    (hf : ∀ a, Loads tree (f a)) (hxy : SameWithin final x y)
    (hfg : ∀ a, Recalls x final a → SameWithin final (f a) (g a)) :
    SameWithin final (x >>= f) (y >>= g) := by
  intro s outcome s' hrun hle
  rcases hfirst : x.run s with ⟨failure | a, t⟩
  · rw [run_bind_of_error hfirst] at hrun
    cases hrun
    exact run_bind_of_error (hxy s _ _ hfirst hle)
  · rw [run_bind_of_ok hfirst] at hrun
    have hmid : t ≤ final := le_trans ((hf a).keeps hrun) hle
    rw [run_bind_of_ok (hxy s _ _ hfirst hmid)]
    exact hfg a (hx.recalls hfirst hmid) t outcome s' hrun hle

theorem lift_bind_congr {result : Except Failure α} {f g : α → Walk β}
    (h : ∀ a, result = .ok a → f a = g a) :
    (liftExcept result >>= f) = (liftExcept result >>= g) := by
  cases result with
  | error failure => rfl
  | ok a => exact h a rfl

end Walk

/-!
# Remembered keys
-/

def Session.Keyed (s : Session) : Prop :=
  ∀ place config, s.cache.get? place = some (.ok (some config)) →
    config.key.project = place.project ∧ config.key.branch = place.branch

theorem Session.LeadsTo.keyed {tree : Tree} (h : ({} : Session).LeadsTo tree s) : s.Keyed := by
  intro place config hread
  rcases h.learns place _ hread with hnothing | ⟨backend, key, revision, rfl, hfresh⟩
  · cases hnothing
  · rw [Loader.key_of_readFresh hfresh]
    exact ⟨rfl, rfl⟩

theorem Loader.remembered_of_recalls_loadOrSkip {tree : Tree} {backend : Backend} {key : ConfigKey}
    {revision : String} {found : Option OwnerConfig}
    (h : Recalls (loadOrSkip tree backend key revision) final found) :
    ∃ reading, final.cache.get? (cacheKey backend key revision) = some reading ∧
      Reading.config? reading = found := by
  rcases h with ⟨t, hrun, hback⟩
  rcases (loading_of_run hrun).remembers with ⟨reading, hknown, hconfig⟩
  exact ⟨reading, hback _ _ hknown, hconfig⟩

/-!
# Reading after later commits
-/

namespace Hierarchy

theorem loadImport_eq (site : Site) (pending : Pending) :
    loadImport site pending =
      (liftExcept (importRevision site pending pending.project pending.branch) >>= fun
        | none => pure none
        | some revision =>
            liftExcept (importKey pending.imp pending.project pending.branch) >>= fun key =>
              liftExcept (site.backendFor pending.project pending.branch) >>= fun backend =>
                Loader.loadOrSkip site.tree backend key revision >>= fun config =>
                  pure (config.map fun config => (config, revision))) := rfl

end Hierarchy

section

variable {project branch : String}
  (hlater : History.CommitsTo digest project branch history later)
include hlater

theorem loadOrSkip_later (backend : Backend) {key : ConfigKey} {revision : String}
    (hsnapshot : ∃ snapshot, history.snapshotAt? key.project revision = some snapshot) :
    Loader.loadOrSkip later.tree backend key revision =
      Loader.loadOrSkip history.tree backend key revision := by
  rcases hsnapshot with ⟨snapshot, hsnapshot⟩
  have hcontent : later.tree.contentOf key.project revision (key.filePath backend.fileName) =
      history.tree.contentOf key.project revision (key.filePath backend.fileName) :=
    History.contentOf_congr ((hlater.snapshotAt? hsnapshot).trans hsnapshot.symm) _
  unfold Loader.loadOrSkip Loader.fetch
  rw [Loader.readFresh_congr hcontent]

namespace Hierarchy

/-- An import that names the branch stands in a configuration of this branch. -/
def StaysOut (project branch : String) (pending : Pending) : Prop :=
  pending.project = project → pending.branch = branch →
    pending.importer.project = project ∧ pending.importer.branch = branch

instance (project branch : String) (pending : Pending) :
    Decidable (StaysOut project branch pending) :=
  inferInstanceAs (Decidable (_ → _ → _ ∧ _))

structure Settled (history : History) (project branch : String) (pending : Pending) : Prop where
  staysOut : StaysOut project branch pending
  snapshot : ∃ snapshot,
    history.snapshotAt? pending.importer.project pending.revision = some snapshot

theorem importRevision_later (configs : ProjectConfigs) {pending : Pending}
    (hstays : StaysOut project branch pending) :
    importRevision (later.site configs) pending pending.project pending.branch =
      importRevision (history.site configs) pending pending.project pending.branch := by
  unfold importRevision
  split
  · rfl
  · rename_i hother
    have hne : (pending.project, pending.branch) ≠ (project, branch) := by
      intro heq
      injection heq with hproject hbranch
      rcases hstays hproject hbranch with ⟨himporter, himporterBranch⟩
      exact hother ⟨hproject.trans himporter.symm, hbranch.trans himporterBranch.symm⟩
    change Except.ok (later.head? pending.project pending.branch) =
      Except.ok (history.head? pending.project pending.branch)
    rw [hlater.head? hne]

variable (hmade : History.Made digest history)
include hmade

theorem loadImport_later (configs : ProjectConfigs) {pending : Pending}
    (h : Settled history project branch pending) :
    loadImport (later.site configs) pending = loadImport (history.site configs) pending := by
  rcases snapshot_of_importRevision hmade configs h.snapshot pending.project pending.branch with
    ⟨head?, hhead, hsnapshots⟩
  rw [loadImport_eq, loadImport_eq, importRevision_later hlater configs h.staysOut, hhead]
  apply lift_bind_congr
  intro found hfound
  cases hfound
  cases head? with
  | none => dsimp only
  | some revision =>
      apply lift_bind_congr
      intro key hkey
      apply lift_bind_congr
      intro backend _
      have hsnapshot := hsnapshots revision rfl
      rw [← (importKey_eq_ok hkey).1] at hsnapshot
      exact congrArg (· >>= _) (loadOrSkip_later hlater backend hsnapshot)

theorem followRound_later (configs : ProjectConfigs) {round : List Pending}
    (h : ∀ pending ∈ round, Settled history project branch pending) (expansion : Expansion) :
    followRound (later.site configs) expansion round =
      followRound (history.site configs) expansion round := by
  induction round generalizing expansion with
  | nil => rfl
  | cons pending rest ih =>
      have hrest := ih fun other hother => h other (List.mem_cons_of_mem pending hother)
      rw [followRound_cons, followRound_cons,
        loadImport_later hlater hmade configs (h pending List.mem_cons_self)]
      apply bind_congr
      intro found
      unfold followFound
      cases found with
      | none => exact hrest expansion
      | some target => exact congrArg (· >>= _) (hrest _)

end Hierarchy

end

/-!
# Trails that come back

A trail comes back into a branch where a configuration of another branch imports one of this branch.
The import then leads to the head of the branch, whatever revision the trail has started at.
-/

namespace Hierarchy

section

variable {project branch revision : String} {root : Found} {depth : Nat}

/-- No import on a way of limited length from a configuration comes back into the branch. -/
def NoWayBack (site : Site) (memory : Session) (project branch : String) (depth : Nat)
    (root : Found) : Prop :=
  ∀ links, IsTrail site memory root links → links.length < depth →
    ∀ imp ∈ (endOf root links).1.imports,
      StaysOut project branch (stepFrom (endOf root links) imp)

variable (hmade : History.Made digest history) (hkeyed : final.Keyed)
  (hroot : ∃ snapshot, history.snapshotAt? root.1.key.project root.2 = some snapshot)
include hmade hkeyed hroot

theorem snapshot_of_trail {links : List Link}
    (h : IsTrail (history.site configs) final root links) :
    ∃ snapshot, history.snapshotAt? (endOf root links).1.key.project (endOf root links).2 =
      some snapshot := by
  induction h with
  | start => exact hroot
  | follow _ _ hleads ih =>
      rename_i link links _ _
      generalize hpending : stepFrom (endOf root links) link.imp = pending at hleads
      have hbefore : ∃ snapshot,
          history.snapshotAt? pending.importer.project pending.revision = some snapshot := by
        rw [← hpending]
        exact ih
      change ∃ snapshot, history.snapshotAt? link.target.1.key.project link.target.2 = _
      generalize link.target = target at hleads
      cases hleads with
      | found hrevision hkey _ hread =>
          rcases snapshot_of_importRevision hmade configs hbefore pending.project pending.branch with
            ⟨head?, hhead, hsnapshots⟩
          rw [hrevision] at hhead
          cases hhead
          rw [(hkeyed _ _ hread).1]
          change ∃ snapshot, history.snapshotAt? (ConfigKey.project _) _ = _
          rw [(importKey_eq_ok hkey).1]
          exact hsnapshots _ rfl

variable (hlater : History.CommitsTo digest project branch history later)
  (hback : NoWayBack (history.site configs) final project branch depth root)
include hlater hback

theorem followRounds_later {trails : List (List Link)} {length rounds : Nat}
    (htrails : ∀ links ∈ trails,
      IsTrail (history.site configs) final root links ∧ links.length = length)
    (hdepth : length + rounds ≤ depth) (expansion : Expansion) :
    SameWithin final
      (followRounds (history.site configs) expansion (waiting root trails) rounds)
      (followRounds (later.site configs) expansion (waiting root trails) rounds) := by
  induction rounds generalizing expansion trails length with
  | zero => exact .of_eq rfl
  | succ rounds ih =>
      have hround : ∀ pending ∈ waiting root trails, Settled history project branch pending := by
        intro pending hpending
        rcases List.mem_flatMap.mp hpending with ⟨links, hlinks, hwaits⟩
        rcases List.mem_map.mp hwaits with ⟨imp, himp, rfl⟩
        rcases htrails links hlinks with ⟨htrail, rfl⟩
        exact ⟨hback links htrail (by omega) imp himp,
          snapshot_of_trail hmade hkeyed hroot htrail⟩
      unfold followRounds
      split
      · exact .of_eq rfl
      · refine .bind (loads_followRound _ _ _) (fun _ => loads_followRounds _ _ _ rounds)
          (.of_eq (followRound_later hlater hmade configs hround expansion)) ?_
        intro gathered hrecalls
        rcases recalls_followRound hrecalls with ⟨_, hnext⟩
        rw [waiting_extended] at hnext
        dsimp only
        rw [hnext]
        exact ih (fun links => isTrail_of_mem_extended htrails) (by omega) gathered.1

theorem expandImports_later :
    SameWithin final (expandImports (history.site configs) root.1 root.2 depth)
      (expandImports (later.site configs) root.1 root.2 depth) := by
  unfold expandImports
  split
  · exact .of_eq rfl
  · rw [← waiting_start (history.site configs) final]
    refine .bind (loads_followRounds _ _ _ depth) (fun _ => .done _) ?_ fun _ _ => .of_eq rfl
    exact followRounds_later hmade hkeyed hroot hlater hback (fun links => mem_trailsOf.mp)
      (by omega) _

end

/-!
# Climbs
-/

def standing (memory : Session) (climb : Climb) (folder : String) : Option OwnerConfig := do
  let key ← (folderKey climb folder).toOption
  let reading ← memory.cache.get? (Loader.cacheKey climb.backend key climb.revision)
  Reading.config? reading

theorem standing_eq {memory : Session} {climb : Climb} {folder : String} {key : ConfigKey}
    {reading : Reading} (hkey : folderKey climb folder = .ok key)
    (hread : memory.cache.get? (Loader.cacheKey climb.backend key climb.revision) =
      some reading) : standing memory climb folder = Reading.config? reading := by
  unfold standing
  rw [hkey]
  change (memory.cache.get? _ >>= _) = _
  rw [hread]
  rfl

theorem standing_of_recalls {climb : Climb} {folder : String} {key : ConfigKey}
    {config : OwnerConfig} (hkeyed : final.Keyed) (hkey : folderKey climb folder = .ok key)
    (h : Recalls (Loader.loadOrSkip history.tree climb.backend key climb.revision) final
      (some config)) :
    standing final climb folder = some config ∧ config.key.project = climb.project := by
  rcases Loader.remembered_of_recalls_loadOrSkip h with ⟨reading, hread, hconfig⟩
  cases reading with
  | error defect => cases hconfig
  | ok read? =>
      cases hconfig
      exact ⟨standing_eq hkey hread, (hkeyed _ _ hread).1.trans (folderKey_eq_ok hkey).1⟩

/-- No import on a way from what stands in the folder comes back into the branch of the climb. -/
def LeadsAway (site : Site) (memory : Session) (climb : Climb) (folder : String) : Prop :=
  ∀ config, standing memory climb folder = some config →
    NoWayBack site memory climb.project climb.branch climb.importDepth (config, climb.revision)

def collectFolders (site : Site) (climb : Climb) : Nat → List String → List Level →
    Walk (List Level) :=
  visitFolders site climb fun seen level => pure (.yield (seen ++ [level]))

theorem levels_eq (site : Site) (place : Place) :
    levels site place = (liftExcept (prepare site place) >>= fun climb =>
      collectFolders site climb 0 climb.folders []) := rfl

def collectFolder (site : Site) (climb : Climb) (distance : Nat) (folder : String)
    (seen : List Level) : Walk (ForInStep (List Level)) :=
  levelAt? site climb folder distance >>= fun
    | none => pure (.yield seen)
    | some level => isLast climb level >>= fun last =>
        pure (if last then .done (seen ++ [level]) else .yield (seen ++ [level]))

theorem collectFolders_cons (site : Site) (climb : Climb) (distance : Nat) (folder : String)
    (rest : List String) (seen : List Level) :
    collectFolders site climb distance (folder :: rest) seen =
      (collectFolder site climb distance folder seen >>= fun
        | .done levels => pure levels
        | .yield levels => collectFolders site climb (distance + 1) rest levels) := by
  unfold collectFolders collectFolder
  rw [visitFolders_cons, bind_assoc]
  apply bind_congr
  intro found
  cases found with
  | none => rfl
  | some level =>
      dsimp only
      rw [pure_bind, bind_assoc]
      apply bind_congr
      intro last
      cases last <;> rfl

theorem loads_collectFolders (site : Site) (climb : Climb) (distance : Nat)
    (folders : List String) (seen : List Level) :
    Loads site.tree (collectFolders site climb distance folders seen) :=
  loads_visitFolders (fun _ _ => .done _) distance folders seen

theorem subset_of_collectFolders {site : Site} {climb : Climb} {distance : Nat}
    {folders : List String} {seen levels : List Level}
    (hrun : (collectFolders site climb distance folders seen).run s = (.ok levels, s')) :
    seen ⊆ levels := by
  rcases climbs_of_run yield_eq_collect hrun with ⟨shown, complete, _, hall⟩
  rw [visitAll_collect] at hall
  cases complete with
  | false => cases hall
  | true =>
      cases hall
      exact List.subset_append_left seen shown

theorem distance_of_levelAt? {site : Site} {climb : Climb} {folder : String} {distance : Nat}
    {level : Level}
    (hrun : (levelAt? site climb folder distance).run s = (.ok (some level), s')) :
    level.distance = distance := by
  rw [levelAt?_eq] at hrun
  rcases run_bind_eq_ok.mp hrun with ⟨key, t, _, hloads⟩
  rcases run_bind_eq_ok.mp hloads with ⟨config?, u, _, hexpands⟩
  cases config? with
  | none => cases hexpands
  | some config =>
      rcases run_bind_eq_ok.mp hexpands with ⟨expanded, v, _, hpure⟩
      cases hpure
      rfl

section

variable {site : Site} {climb : Climb} {distance : Nat} {folder : String}
  {folders rest : List String} {seen : List Level} {t : Session}

theorem exists_level_of_grown {step : ForInStep (List Level)} {levels : List Level}
    (hrun : (collectFolder site climb distance folder seen).run s = (.ok step, t))
    (hgrown : (.ok step : Except Failure _) ≠ .ok (.yield seen))
    (hlevels : step = .done levels ∨ step = .yield levels) :
    ∃ level ∈ levels, level.distance = distance := by
  rcases run_bind_eq_ok.mp hrun with ⟨found, u, hfound, hrest⟩
  cases found with
  | none =>
      cases hrest
      exact absurd rfl hgrown
  | some level =>
      rcases run_bind_eq_ok.mp hrest with ⟨last, v, _, hpure⟩
      have hadded : levels = seen ++ [level] := by
        cases hpure
        cases last <;> rcases hlevels with heq | heq <;> cases heq <;> rfl
      rw [hadded]
      exact ⟨level, List.mem_append_right seen List.mem_cons_self, distance_of_levelAt? hfound⟩

theorem run_collectFolders_of_error {failure : Failure}
    (h : (collectFolder site climb distance folder seen).run s = (.error failure, t)) :
    (collectFolders site climb distance (folder :: rest) seen).run s = (.error failure, t) := by
  rw [collectFolders_cons]
  exact run_bind_of_error h

theorem run_collectFolders_of_done {levels : List Level}
    (h : (collectFolder site climb distance folder seen).run s = (.ok (.done levels), t)) :
    (collectFolders site climb distance (folder :: rest) seen).run s = (.ok levels, t) := by
  rw [collectFolders_cons, run_bind_of_ok h]
  rfl

theorem run_collectFolders_of_yield {levels : List Level}
    (h : (collectFolder site climb distance folder seen).run s = (.ok (.yield levels), t)) :
    (collectFolders site climb distance (folder :: rest) seen).run s =
      (collectFolders site climb (distance + 1) rest levels).run t := by
  rw [collectFolders_cons, run_bind_of_ok h]

/-- A climb over more folders ends where the one over the first of them does, or goes on from
there. -/
theorem run_collectFolders_append (site : Site) (climb : Climb) (distance : Nat)
    (folders rest : List String) (seen : List Level) (s : Session) :
    (collectFolders site climb distance (folders ++ rest) seen).run s =
        (collectFolders site climb distance folders seen).run s ∨
      ∃ found t, (collectFolders site climb distance folders seen).run s = (.ok found, t) ∧
        (collectFolders site climb distance (folders ++ rest) seen).run s =
          (collectFolders site climb (distance + folders.length) rest found).run t := by
  induction folders generalizing distance seen s with
  | nil => exact .inr ⟨seen, s, rfl, rfl⟩
  | cons folder others ih =>
      rcases hfirst : (collectFolder site climb distance folder seen).run s with
        ⟨failure | levels | levels, t⟩
      · left
        rw [List.cons_append, run_collectFolders_of_error hfirst,
          run_collectFolders_of_error hfirst]
      · left
        rw [List.cons_append, run_collectFolders_of_done hfirst, run_collectFolders_of_done hfirst]
      · rw [List.cons_append, run_collectFolders_of_yield hfirst,
          run_collectFolders_of_yield hfirst, List.length_cons, ← Nat.add_assoc,
          Nat.add_right_comm]
        exact ih (distance + 1) levels t

theorem collectFolders_take {found : List Level} {outcome : Except Failure (List Level)}
    {count : Nat}
    (hrun : (collectFolders site climb distance folders seen).run s = (outcome, s'))
    (htake : (collectFolders site climb distance (folders.take count) seen).run s = (.ok found, t)) :
    t ≤ s' ∧ ∀ levels, outcome = .ok levels → found ⊆ levels := by
  have hall := run_collectFolders_append site climb distance (folders.take count)
    (folders.drop count) seen s
  rw [List.take_append_drop, hrun, htake] at hall
  rcases hall with hsame | ⟨found, u, hfound, hrest⟩
  · cases hsame
    exact ⟨le_rfl, fun levels hlevels => Except.ok.inj hlevels ▸ List.Subset.refl _⟩
  · cases hfound
    refine ⟨(loads_collectFolders site climb _ _ _).keeps hrest.symm, fun levels hlevels => ?_⟩
    rw [hlevels] at hrest
    exact subset_of_collectFolders hrest.symm

theorem run_collectFolders_take {levels : List Level}
    (hrun : (collectFolders site climb distance folders seen).run s = (.ok levels, s'))
    (count : Nat) : ∃ found t,
      (collectFolders site climb distance (folders.take count) seen).run s = (.ok found, t) := by
  have hall := run_collectFolders_append site climb distance (folders.take count)
    (folders.drop count) seen s
  rw [List.take_append_drop, hrun] at hall
  rcases hall with hsame | ⟨found, t, hfound, _⟩
  · exact ⟨levels, s', hsame.symm⟩
  · exact ⟨found, t, hfound⟩

end

section

variable {climb : Climb} {folder : String} {distance : Nat}
  (hmade : History.Made digest history) (hkeyed : final.Keyed)
  (hlater : History.CommitsTo digest climb.project climb.branch history later)
  (hsnapshot : ∃ snapshot, history.snapshotAt? climb.project climb.revision = some snapshot)
include hmade hkeyed hlater hsnapshot

theorem levelAt?_later {found : Except Failure (Option Level)}
    (hrun : (levelAt? (history.site configs) climb folder distance).run s = (found, s'))
    (hle : s' ≤ final)
    (hback : found ≠ .ok none → LeadsAway (history.site configs) final climb folder) :
    (levelAt? (later.site configs) climb folder distance).run s = (found, s') := by
  rw [levelAt?_eq] at hrun ⊢
  cases hkey : folderKey climb folder with
  | error failure =>
      rw [hkey] at hrun
      rw [run_bind_of_error (run_liftExcept _ _)] at hrun ⊢
      exact hrun
  | ok key =>
      rw [hkey] at hrun
      rw [run_bind_of_ok (run_liftExcept _ _)] at hrun ⊢
      have hthere : ∃ snapshot, history.snapshotAt? key.project climb.revision = some snapshot := by
        rw [(folderKey_eq_ok hkey).1]
        exact hsnapshot
      have hload : Loader.loadOrSkip (later.site configs).tree climb.backend key climb.revision =
          Loader.loadOrSkip (history.site configs).tree climb.backend key climb.revision :=
        loadOrSkip_later hlater climb.backend hthere
      rw [hload]
      rcases hfirst : (Loader.loadOrSkip (history.site configs).tree climb.backend key
        climb.revision).run s with ⟨failure | config?, t⟩
      · rw [run_bind_of_error hfirst] at hrun ⊢
        exact hrun
      · rw [run_bind_of_ok hfirst] at hrun ⊢
        cases config? with
        | none => exact hrun
        | some config =>
            have hexpand := loads_expandImports (history.site configs) config climb.revision
              climb.importDepth
            have hmid : t ≤ final := le_trans ((hexpand.bind fun _ => .done _).keeps hrun) hle
            have hfound : found ≠ .ok none := by
              intro hnone
              rw [hnone] at hrun
              rcases run_bind_eq_ok.mp hrun with ⟨_, _, _, hpure⟩
              cases hpure
            rcases standing_of_recalls hkeyed hkey
              ((loads_loadOrSkip climb.backend key climb.revision).recalls hfirst hmid) with
              ⟨hstanding, hproject⟩
            rw [← hproject] at hsnapshot
            have hsame := expandImports_later hmade hkeyed hsnapshot hlater
              (hback hfound config hstanding)
            exact hsame.bind hexpand (fun _ => .done _) (fun _ _ => .of_eq rfl) t found s' hrun hle

theorem collectFolder_later {seen : List Level} {result : Except Failure (ForInStep (List Level))}
    (hrun : (collectFolder (history.site configs) climb distance folder seen).run s = (result, s'))
    (hle : s' ≤ final)
    (hback : result ≠ .ok (.yield seen) → LeadsAway (history.site configs) final climb folder) :
    (collectFolder (later.site configs) climb distance folder seen).run s = (result, s') := by
  unfold collectFolder at hrun ⊢
  rcases hlevel : (levelAt? (history.site configs) climb folder distance).run s with
    ⟨failure | found, t⟩
  · rw [run_bind_of_error hlevel] at hrun
    cases hrun
    exact run_bind_of_error (levelAt?_later hmade hkeyed hlater hsnapshot hlevel hle
      fun _ => hback fun heq => nomatch heq)
  · rw [run_bind_of_ok hlevel] at hrun
    cases found with
    | none =>
        cases hrun
        exact run_bind_of_ok (levelAt?_later hmade hkeyed hlater hsnapshot hlevel hle
          fun hsome => absurd rfl hsome)
    | some level =>
        have hlast : Loads (history.site configs).tree (isLast climb level >>= fun last =>
            pure (if last then ForInStep.done (seen ++ [level]) else .yield (seen ++ [level]))) :=
          (loads_isLast _ climb level).bind fun _ => .done _
        have hgrown : result ≠ .ok (.yield seen) := by
          rintro rfl
          rcases run_bind_eq_ok.mp hrun with ⟨last, _, _, hpure⟩
          cases last <;> simp [run_pure] at hpure
        have hagain := levelAt?_later hmade hkeyed hlater hsnapshot hlevel
          (le_trans (hlast.keeps hrun) hle) fun _ => hback hgrown
        rw [run_bind_of_ok hagain]
        exact hrun

/-- A climb over some folders reads the same later on if no import comes back from those of its
levels, nor from the folder where it fails. -/
theorem collectFolders_later {folders : List String} {seen : List Level}
    {outcome : Except Failure (List Level)}
    (hrun : (collectFolders (history.site configs) climb distance folders seen).run s =
      (outcome, s'))
    (hle : s' ≤ final)
    (hback : ∀ (index : Nat) (folder : String), folders[index]? = some folder →
      (∀ levels, outcome = .ok levels → ∃ level ∈ levels, level.distance = distance + index) →
      (∀ failure, outcome = .error failure → ∃ found t,
        (collectFolders (history.site configs) climb distance (folders.take index) seen).run s =
          (.ok found, t)) →
      LeadsAway (history.site configs) final climb folder) :
    (collectFolders (later.site configs) climb distance folders seen).run s = (outcome, s') := by
  induction folders generalizing distance seen s with
  | nil => exact hrun
  | cons folder rest ih =>
      rcases hfirst : (collectFolder (history.site configs) climb distance folder seen).run s with
        ⟨failure | levels | levels, t⟩
      · rw [run_collectFolders_of_error hfirst] at hrun
        cases hrun
        apply run_collectFolders_of_error
        refine collectFolder_later hmade hkeyed hlater hsnapshot hfirst hle fun _ => ?_
        exact hback 0 folder rfl (fun levels hlevels => nomatch hlevels) fun _ _ => ⟨seen, s, rfl⟩
      · rw [run_collectFolders_of_done hfirst] at hrun
        cases hrun
        apply run_collectFolders_of_done
        refine collectFolder_later hmade hkeyed hlater hsnapshot hfirst hle fun hgrown => ?_
        refine hback 0 folder rfl (fun all hall => ?_) fun _ hfails => nomatch hfails
        cases hall
        exact exists_level_of_grown hfirst hgrown (.inl rfl)
      · rw [run_collectFolders_of_yield hfirst] at hrun
        have hmid : t ≤ s' := (loads_collectFolders _ climb _ rest levels).keeps hrun
        have hagain := collectFolder_later hmade hkeyed hlater hsnapshot hfirst
          (le_trans hmid hle) fun hgrown => by
            refine hback 0 folder rfl (fun all hall => ?_) fun _ _ => ⟨seen, s, rfl⟩
            rw [hall] at hrun
            rcases exists_level_of_grown hfirst hgrown (.inr rfl) with ⟨level, hmem, hdistance⟩
            exact ⟨level, subset_of_collectFolders hrun hmem, hdistance⟩
        rw [run_collectFolders_of_yield hagain]
        refine ih hrun fun index other hother hhanded hfails => ?_
        refine hback (index + 1) other hother (fun all hall => ?_) fun failure hfailure => ?_
        · rw [← Nat.add_assoc, Nat.add_right_comm]
          exact hhanded all hall
        · rcases hfails failure hfailure with ⟨found, u, hreached⟩
          exact ⟨found, u, (run_collectFolders_of_yield hfirst).trans hreached⟩

end

/-!
# Levels that stay
-/

def levelsUpTo (site : Site) (place : Place) (count : Nat) : Walk (List Level) :=
  liftExcept (prepare site place) >>= fun climb =>
    collectFolders site climb 0 (climb.folders.take count) []

/-- The folder stands at one of the levels, or the climb fails, and does not fail before it. -/
def ComesTo (site : Site) (place : Place) (s : Session) (outcome : Except Failure (List Level))
    (distance : Nat) : Prop :=
  match outcome with
  | .ok levels => ∃ level ∈ levels, level.distance = distance
  | .error _ => ∃ seen t, (levelsUpTo site place distance).run s = (.ok seen, t)

/-- No import on a way from a folder that the climb has come to, which is that of a level or the one
where the climb fails, comes back into the branch of the place. -/
def NeverComesBack (site : Site) (place : Place) (s memory : Session)
    (outcome : Except Failure (List Level)) : Prop :=
  ∀ climb, prepare site place = .ok climb →
    ∀ (distance : Nat) (folder : String), climb.folders[distance]? = some folder →
      ComesTo site place s outcome distance →
      ∀ config, standing memory climb folder = some config →
        NoWayBack site memory place.project place.branch climb.importDepth
          (config, place.revision)

section

variable {site : Site} {place : Place} {climb : Climb} {failure : Failure}

theorem run_levels_of_error (hprepare : prepare site place = .error failure) (s : Session) :
    (levels site place).run s = (.error failure, s) := by
  rw [levels_eq, hprepare]
  exact run_bind_of_error (run_liftExcept _ _)

theorem run_levels_of_ok (hprepare : prepare site place = .ok climb) (s : Session) :
    (levels site place).run s = (collectFolders site climb 0 climb.folders []).run s := by
  rw [levels_eq, hprepare]
  exact run_bind_of_ok (run_liftExcept _ _)

theorem run_levelsUpTo_of_error (hprepare : prepare site place = .error failure) (count : Nat)
    (s : Session) : (levelsUpTo site place count).run s = (.error failure, s) := by
  unfold levelsUpTo
  rw [hprepare]
  exact run_bind_of_error (run_liftExcept _ _)

theorem run_levelsUpTo_of_ok (hprepare : prepare site place = .ok climb) (count : Nat)
    (s : Session) : (levelsUpTo site place count).run s =
      (collectFolders site climb 0 (climb.folders.take count) []).run s := by
  unfold levelsUpTo
  rw [hprepare]
  exact run_bind_of_ok (run_liftExcept _ _)

end

section

variable {site : Site} {place : Place} {climb : Climb} {outcome : Except Failure (List Level)}
  {index : Nat} (hprepare : prepare site place = .ok climb)
  (hrun : (collectFolders site climb 0 climb.folders []).run s = (outcome, s'))
include hprepare

theorem comesTo_of_run
    (hlevel : ∀ levels, outcome = .ok levels → ∃ level ∈ levels, level.distance = index)
    (hfails : ∀ failure, outcome = .error failure → ∃ seen t,
      (collectFolders site climb 0 (climb.folders.take index) []).run s = (.ok seen, t)) :
    ComesTo site place s outcome index := by
  cases outcome with
  | ok levels => exact hlevel levels rfl
  | error failure =>
      rcases hfails failure rfl with ⟨seen, t, hreached⟩
      exact ⟨seen, t, (run_levelsUpTo_of_ok hprepare index s).trans hreached⟩

include hrun

/-- A climb comes to the levels of its first folders, even if it fails later. -/
theorem comesTo_of_take {count : Nat} {seen : List Level} {t : Session}
    (htake : (collectFolders site climb 0 (climb.folders.take count) []).run s = (.ok seen, t))
    (hindex : index ≤ count) (hlevel : ∃ level ∈ seen, level.distance = index) :
    ComesTo site place s outcome index := by
  refine comesTo_of_run hprepare (fun levels houtcome => ?_) fun _ _ => ?_
  · rcases hlevel with ⟨level, hmem, hdistance⟩
    exact ⟨level, (collectFolders_take hrun htake).2 levels houtcome hmem, hdistance⟩
  · have hreached := run_collectFolders_take htake index
    rw [List.take_take, Nat.min_eq_left hindex] at hreached
    exact hreached

end

theorem prepare_later (history later : History) (configs : ProjectConfigs) (place : Place) :
    prepare (later.site configs) place = prepare (history.site configs) place := rfl

theorem collectFolders_stable {place : Place} {climb : Climb}
    {outcome : Except Failure (List Level)} (hmade : History.Made digest history)
    (hrevision : place.revision ∈ history.revisions place.project place.branch)
    (hlater : History.CommitsTo digest place.project place.branch history later)
    (hkeyed : s'.Keyed) (hprepare : prepare (history.site configs) place = .ok climb)
    (hrun : (collectFolders (history.site configs) climb 0 climb.folders []).run s = (outcome, s'))
    (hback : NeverComesBack (history.site configs) place s s' outcome) :
    (collectFolders (later.site configs) climb 0 climb.folders []).run s = (outcome, s') ∧
      ∀ count seen t,
        (collectFolders (history.site configs) climb 0 (climb.folders.take count) []).run s =
          (.ok seen, t) →
        (collectFolders (later.site configs) climb 0 (climb.folders.take count) []).run s =
          (.ok seen, t) := by
  have hclimb := prepared_of_prepare hprepare
  have hshown := hback climb hprepare
  rw [← hclimb.project, ← hclimb.branch] at hlater hrevision hshown
  rw [← hclimb.revision] at hrevision hshown
  have hsnapshot := hmade.snapshot_of_mem hrevision
  constructor
  · refine collectFolders_later hmade hkeyed hlater hsnapshot hrun le_rfl ?_
    intro index folder hfolder hlevel hfails
    rw [Nat.zero_add] at hlevel
    exact hshown index folder hfolder (comesTo_of_run hprepare hlevel hfails)
  · intro count seen t htake
    refine collectFolders_later hmade hkeyed hlater hsnapshot htake
      (collectFolders_take hrun htake).1 ?_
    intro index folder hfolder hlevel _
    rw [Nat.zero_add] at hlevel
    rw [List.getElem?_take] at hfolder
    split at hfolder
    · rename_i hindex
      exact hshown index folder hfolder
        (comesTo_of_take hprepare hrun htake hindex.le (hlevel seen rfl))
    · cases hfolder

theorem levels_later {place : Place} {outcome : Except Failure (List Level)}
    (hmade : History.Made digest history)
    (hrevision : place.revision ∈ history.revisions place.project place.branch)
    (hlater : History.CommitsTo digest place.project place.branch history later)
    (hkeyed : s'.Keyed)
    (hrun : (levels (history.site configs) place).run s = (outcome, s'))
    (hback : NeverComesBack (history.site configs) place s s' outcome) :
    (levels (later.site configs) place).run s = (outcome, s') ∧
      ∀ count seen t, (levelsUpTo (history.site configs) place count).run s = (.ok seen, t) →
        (levelsUpTo (later.site configs) place count).run s = (.ok seen, t) := by
  have hprepared := prepare_later history later configs place
  cases hprepare : prepare (history.site configs) place with
  | error failure =>
      rw [hprepare] at hprepared
      rw [run_levels_of_error hprepare] at hrun
      refine ⟨(run_levels_of_error hprepared s).trans hrun, fun count seen t htake => ?_⟩
      rw [run_levelsUpTo_of_error hprepare] at htake
      cases htake
  | ok climb =>
      rw [hprepare] at hprepared
      rw [run_levels_of_ok hprepare] at hrun
      rcases collectFolders_stable hmade hrevision hlater hkeyed hprepare hrun hback with
        ⟨hwhole, htakes⟩
      refine ⟨(run_levels_of_ok hprepared s).trans hwhole, fun count seen t htake => ?_⟩
      rw [run_levelsUpTo_of_ok hprepare] at htake
      rw [run_levelsUpTo_of_ok hprepared]
      exact htakes count seen t htake

/-- What is asked for at a revision of a branch stays the same under later commits to this branch, in
the session of the first walk and in any later one, unless an import comes back into the branch from
another one.  The levels of the first folders stay the same too, even if the climb fails after
them. -/
theorem levels_stable {place : Place} {outcome : Except Failure (List Level)}
    (hmade : History.Made digest history)
    (hrevision : place.revision ∈ history.revisions place.project place.branch)
    (hlater : History.CommitsTo digest place.project place.branch history later)
    (hleads : ({} : Session).LeadsTo history.tree s)
    (hrun : (levels (history.site configs) place).run s = (outcome, s'))
    (hback : NeverComesBack (history.site configs) place s s' outcome) :
    (levels (later.site configs) place).run s = (outcome, s') ∧
      (∀ seen t, outcome = .ok seen → s' ≤ t →
        ∃ t', (levels (later.site configs) place).run t = (.ok seen, t')) ∧
      ∀ count seen t, (levelsUpTo (history.site configs) place count).run s = (.ok seen, t) →
        (levelsUpTo (later.site configs) place count).run s = (.ok seen, t) := by
  have hloads : ∀ site : Site, Loads site.tree (levels site place) := fun site =>
    loads_visitLevels (fun _ _ => .done _) place []
  have hkeyed : s'.Keyed := (hleads.trans ((hloads (history.site configs)).leadsTo hrun)).keyed
  rcases levels_later hmade hrevision hlater hkeyed hrun hback with ⟨hsame, htakes⟩
  refine ⟨hsame, fun seen t houtcome hle => ?_, htakes⟩
  rcases (hloads (later.site configs)).recalls (houtcome ▸ hsame) hle with ⟨t', hagain, _⟩
  exact ⟨t', hagain⟩

/-!
# Two branches

A configuration of the harbor imports one of the dock, which stands in another branch.
-/

def dockCommit : Except PathError (String × History) :=
  History.commitWith id {} "dock" "main" ⟨[("/OWNERS", some "bob@dock\n".toUTF8.toList)]⟩

def dock : History := (dockCommit.toOption.map Prod.snd).getD {}

def harborCommit : Except PathError (String × History) :=
  History.commitWith id dock "harbor" "main" ⟨[
    ("/OWNERS", some "include dock:main:/OWNERS\nann@harbor\n".toUTF8.toList),
    ("/quay/OWNERS", some "include /OWNERS\n".toUTF8.toList)]⟩

def harbor : History := (harborCommit.toOption.map Prod.snd).getD dock

def stormCommit : Except PathError (String × History) :=
  History.commitWith id harbor "harbor" "main" ⟨[
    ("/OWNERS", some "eve@harbor\n".toUTF8.toList), ("/quay/OWNERS", none)]⟩

def harborAfterStorm : History := (stormCommit.toOption.map Prod.snd).getD harbor

def quayPlace : Place where
  project := "harbor"
  branch := "main"
  revision := "harbor|main|2"
  path := "/quay/crane"

def namesOf (levels : List Level) : List (List String) :=
  levels.map fun level => level.config.sets.flatMap OwnerSet.emails

theorem commitsTo_of_commit {commit : Except PathError (String × History)}
    {project branch : String} {files : Table String (Option Content)}
    (h : commit = History.commitWith digest history project branch files)
    (hnew : ∀ made ∈ commit.toOption, history.snapshotAt? project made.1 = none) :
    History.CommitsTo digest project branch history
      ((commit.toOption.map Prod.snd).getD history) := by
  cases hcommit : commit with
  | error defect => exact .none
  | ok made =>
      rw [hcommit] at hnew
      exact .commit .none (h.symm.trans hcommit) (hnew made rfl)

theorem harbor_made : History.Made id harbor :=
  made_of_commit (made_of_commit .start (rfl : dockCommit = _)) (rfl : harborCommit = _)

theorem harbor_levels_stable :
    ∃ levels s', (Hierarchy.levels (harbor.site {}) quayPlace).run {} = (.ok levels, s') ∧
      (Hierarchy.levels (harborAfterStorm.site {}) quayPlace).run {} = (.ok levels, s') ∧
      namesOf levels = [["ann@harbor", "bob@dock"], ["ann@harbor", "bob@dock"]] := by
  have hrevision : quayPlace.revision ∈ harbor.revisions "harbor" "main" := by decide +kernel
  have hnew : ∀ made ∈ stormCommit.toOption, harbor.snapshotAt? "harbor" made.1 = none := by
    decide +kernel
  have hfound : ((Hierarchy.levels (harbor.site {}) quayPlace).run {}).1.toOption.map namesOf =
      some [["ann@harbor", "bob@dock"], ["ann@harbor", "bob@dock"]] := by decide +kernel
  have hways : ∀ climb ∈ (prepare (harbor.site {}) quayPlace).toOption,
      ∀ folder ∈ climb.folders,
      ∀ config ∈ standing ((Hierarchy.levels (harbor.site {}) quayPlace).run {}).2 climb folder,
      ∀ length < climb.importDepth,
      ∀ links ∈ trailsOf (harbor.site {}) ((Hierarchy.levels (harbor.site {}) quayPlace).run {}).2
        (config, quayPlace.revision) length,
      ∀ imp ∈ (endOf (config, quayPlace.revision) links).1.imports,
        StaysOut "harbor" "main" (stepFrom (endOf (config, quayPlace.revision) links) imp) := by
    decide +kernel
  rcases Option.map_eq_some_iff.mp hfound with ⟨levels, hlevels, hnames⟩
  have hrun := run_of_toOption hlevels
  refine ⟨levels, _, hrun, ?_, hnames⟩
  refine (levels_stable harbor_made hrevision (commitsTo_of_commit (rfl : stormCommit = _) hnew)
    (.refl _ _) hrun ?_).1
  intro climb hprepare distance folder hfolder _ config hconfig links htrail hshort imp himp
  have hclimb : climb ∈ (prepare (harbor.site {}) quayPlace).toOption := by
    rw [hprepare]
    rfl
  exact hways climb hclimb folder (List.mem_of_getElem? hfolder) config hconfig links.length hshort
    links (mem_trailsOf.mpr ⟨htrail, rfl⟩) imp himp

/-!
# A way back

A configuration of the ferry imports one of the shore, which in turn imports a file of the ferry that
is not there yet.
-/

def ferryCommit : Except PathError (String × History) :=
  History.commit {} "ferry" "main"
    ⟨[("/OWNERS", some "include shore:main:/OWNERS\n".toUTF8.toList)]⟩

def emptyShore : History := (ferryCommit.toOption.map Prod.snd).getD {}

def shoreCommit : Except PathError (String × History) :=
  History.commit emptyShore "shore" "main"
    ⟨[("/OWNERS", some "include ferry:main:/crew\n".toUTF8.toList)]⟩

def ferry : History := (shoreCommit.toOption.map Prod.snd).getD emptyShore

def crewCommit : Except PathError (String × History) :=
  History.commit ferry "ferry" "main" ⟨[("/crew", some "ann@ferry\n".toUTF8.toList)]⟩

def ferryWithCrew : History := (crewCommit.toOption.map Prod.snd).getD ferry

def deckPlace : Place where
  project := "ferry"
  branch := "main"
  revision := "4850365017b226ce8d33fd2a2d1c7e0a6a3e4f77"
  path := "/deck"

theorem ferry_shows_later_crew :
    History.Made Text.fingerprint ferry ∧ deckPlace.revision ∈ ferry.revisions "ferry" "main" ∧
      History.CommitsTo Text.fingerprint "ferry" "main" ferry ferryWithCrew ∧
      ((levels (ferry.site {}) deckPlace).run {}).1.toOption.map namesOf = some [[]] ∧
      ((levels (ferryWithCrew.site {}) deckPlace).run {}).1.toOption.map namesOf =
        some [["ann@ferry"]] := by
  have hnew : ∀ made ∈ crewCommit.toOption, ferry.snapshotAt? "ferry" made.1 = none := by
    decide +kernel
  refine ⟨?_, by decide +kernel, commitsTo_of_commit (rfl : crewCommit = _) hnew,
    by decide +kernel, by decide +kernel⟩
  exact made_of_commit (made_of_commit .start (rfl : ferryCommit = _)) (rfl : shoreCommit = _)

end Hierarchy
end Ownership
