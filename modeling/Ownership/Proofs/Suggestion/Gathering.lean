import Mathlib.Order.Bounds.Defs
import Ownership.Proofs.Suggestion.Soundness

/-!
# What a suggestion is made from

A suggestion is gathered in tables that are filled level by level.  What they hold in the end can be
said in terms of the references that the levels and the global owners list for the path, each with
its distance: who is listed, how near, and who is listed with the remark never to be suggested.
-/

namespace Ownership

open Walk Hierarchy

variable {id : Int} {path asked : String} {ref : OwnerRef} {refs : List OwnerRef}
  {set : OwnerSet} {sets : List OwnerSet} {config : OwnerConfig} {level : Level}
  {levels : List Level} {globalOwners : List String} {distance greatest : Nat}

/-!
# Listings
-/

def OwnerConfig.HasFor (config : OwnerConfig) (path : String) (set : OwnerSet) : Prop :=
  ∃ relative, Path.relativeTo config.key.folder path = .ok relative ∧
    set ∈ config.sets ∧ set.isFor relative = true

/-- The references that are listed for a path, each with the distance at which it is.  The global
owners are listed behind all levels, unless a set of some level shuts them out for the path that is
asked for. -/
inductive Listing (levels : List Level) (path asked : String) (globalOwners : List String)
    (greatest : Nat) : OwnerRef → Nat → Prop
  | level {level : Level} {set : OwnerSet} {ref : OwnerRef} (hlevel : level ∈ levels)
      (hset : level.config.HasFor path set) (href : ref ∈ set.owners) :
      Listing levels path asked globalOwners greatest ref level.distance
  | global {email : String} (hemail : email ∈ globalOwners)
      (hopen : ∀ level ∈ levels, ∀ set, level.config.HasFor asked set → set.overrides = false) :
      Listing levels path asked globalOwners greatest { email } greatest

namespace OwnerConfig

theorem mem_setsFor (h : config.setsFor path = .ok sets) :
    set ∈ sets ↔ config.HasFor path set := by
  rcases except_bind_eq_ok.mp h with ⟨relative, hrelative, hsets⟩
  cases hsets
  unfold HasFor
  rw [List.mem_filter, hrelative]
  simp

theorem overridesFor_eq_false {ignores : Bool} (h : config.overridesFor path = .ok ignores) :
    ignores = false ↔ ∀ set, config.HasFor path set → set.overrides = false := by
  rcases except_bind_eq_ok.mp h with ⟨sets, hsets, hany⟩
  cases hany
  rw [List.any_eq_false]
  simp only [mem_setsFor hsets, Bool.not_eq_true]

end OwnerConfig

namespace Resolver

variable {resolver : Resolver}

theorem exists_refs_of_pathOwners {owners : PathOwners}
    (hpath : Path.normalize asked = .ok path)
    (h : resolver.pathOwners config asked = .ok owners) :
    ∃ refs, owners = resolver.resolve refs ∧
      ∀ ref, ref ∈ refs ↔ ∃ set, config.HasFor path set ∧ ref ∈ set.owners := by
  rcases except_bind_eq_ok.mp h with ⟨normal, hnormal, hrest⟩
  rcases except_bind_eq_ok.mp hrest with ⟨sets, hsets, hend⟩
  cases hend
  rw [hpath] at hnormal
  cases hnormal
  refine ⟨_, rfl, fun ref => ?_⟩
  rw [List.mem_flatMap]
  simp only [OwnerConfig.mem_setsFor hsets]

theorem everybody_addAccounts (remarks : List Remark) (ids : List Int) (owners : PathOwners) :
    (ids.foldl (fun owners id => owners.addAccount remarks id) owners).everybody =
      owners.everybody := by
  induction ids generalizing owners with
  | nil => rfl
  | cons first rest ih => exact ih (owners.addAccount remarks first)

theorem everybody_addRef (resolver : Resolver) (owners : PathOwners) (ref : OwnerRef) :
    (resolver.addRef owners ref).everybody = (owners.everybody || ref.isEverybody) := by
  unfold addRef
  cases ref.isEverybody with
  | true => exact (Bool.or_true _).symm
  | false =>
      rw [Bool.or_false, if_neg Bool.false_ne_true]
      dsimp only
      split
      · unfold PathOwners.addUnresolved
        split <;> rfl
      · exact everybody_addAccounts _ _ owners

theorem everybody_resolve (resolver : Resolver) (refs : List OwnerRef) :
    (resolver.resolve refs).everybody = refs.any OwnerRef.isEverybody := by
  have hfold : ∀ owners : PathOwners, (refs.foldl resolver.addRef owners).everybody =
      (owners.everybody || refs.any OwnerRef.isEverybody) := by
    induction refs with
    | nil => exact fun owners => (Bool.or_false _).symm
    | cons first rest ih =>
        intro owners
        rw [List.foldl_cons, ih, everybody_addRef, List.any_cons, Bool.or_assoc]
  exact hfold {}

end Resolver

namespace Suggester

variable {suggester : Suggester} {candidates : Candidates} {listed : OwnerRef → Nat → Prop}

/-!
# Gathering
-/

def distancesOf (suggester : Suggester) (listed : OwnerRef → Nat → Prop) (id : Int) : Set Nat :=
  {distance | ∃ ref, listed ref distance ∧ suggester.resolver.Names ref id}

def IsReluctant (suggester : Suggester) (listed : OwnerRef → Nat → Prop) (id : Int) : Prop :=
  ∃ ref distance, listed ref distance ∧ suggester.resolver.Names ref id ∧
    Remark.neverSuggest ∈ ref.remarks

def ListsEverybody (listed : OwnerRef → Nat → Prop) : Prop :=
  ∃ ref distance, listed ref distance ∧ ref.isEverybody = true

/-- The candidates are what the listed references come to. -/
structure Gathers (suggester : Suggester) (listed : OwnerRef → Nat → Prop)
    (candidates : Candidates) : Prop where
  nodup : candidates.distances.keys.Nodup
  known : ∀ id, id ∈ candidates.distances.keys ↔ (suggester.distancesOf listed id).Nonempty
  nearest : ∀ id distance, candidates.distances.get? id = some distance →
    IsLeast (suggester.distancesOf listed id) distance
  reluctant : ∀ id, id ∈ candidates.reluctant ↔ suggester.IsReluctant listed id
  everybody : candidates.everybody = true ↔ ListsEverybody listed

theorem gathers_empty (suggester : Suggester) : suggester.Gathers (fun _ _ => False) {} where
  nodup := List.nodup_nil
  known id := by simp [Table.keys, distancesOf, Set.Nonempty]
  nearest id distance h := by cases h
  reluctant id := by simp [IsReluctant]
  everybody := by simp [ListsEverybody]

theorem Gathers.congr {listed' : OwnerRef → Nat → Prop} (h : suggester.Gathers listed candidates)
    (hlisted : ∀ ref distance, listed ref distance ↔ listed' ref distance) :
    suggester.Gathers listed' candidates := by
  have hsame : listed = listed' := by
    funext ref distance
    exact propext (hlisted ref distance)
  rw [← hsame]
  exact h

def listedAlso (listed : OwnerRef → Nat → Prop) (refs : List OwnerRef) (distance : Nat) :
    OwnerRef → Nat → Prop :=
  fun ref d => listed ref d ∨ ref ∈ refs ∧ d = distance

theorem exists_listedAlso (listed : OwnerRef → Nat → Prop) (refs : List OwnerRef) (distance : Nat)
    (kind : OwnerRef → Prop) :
    (∃ ref d, listedAlso listed refs distance ref d ∧ kind ref) ↔
      (∃ ref d, listed ref d ∧ kind ref) ∨ ∃ ref ∈ refs, kind ref := by
  unfold listedAlso
  constructor
  · intro hlisted
    rcases hlisted with ⟨ref, d, hold | ⟨href, _⟩, hkind⟩
    · exact .inl ⟨ref, d, hold, hkind⟩
    · exact .inr ⟨ref, href, hkind⟩
  · intro hcases
    rcases hcases with ⟨ref, d, hold, hkind⟩ | ⟨ref, href, hkind⟩
    · exact ⟨ref, d, .inl hold, hkind⟩
    · exact ⟨ref, distance, .inr ⟨href, rfl⟩, hkind⟩

theorem distancesOf_also (suggester : Suggester) (listed : OwnerRef → Nat → Prop)
    (refs : List OwnerRef) (distance : Nat) (id : Int) :
    suggester.distancesOf (listedAlso listed refs distance) id =
      if id ∈ (suggester.resolver.resolve refs).accounts then
        insert distance (suggester.distancesOf listed id)
      else suggester.distancesOf listed id := by
  ext d
  have hmem : d ∈ suggester.distancesOf (listedAlso listed refs distance) id ↔
      d ∈ suggester.distancesOf listed id ∨
        id ∈ (suggester.resolver.resolve refs).accounts ∧ d = distance := by
    unfold distancesOf listedAlso
    rw [Resolver.mem_accounts_resolve]
    simp only [Set.mem_ofPred_eq, or_and_right, exists_or]
    refine or_congr_right ⟨fun h => ?_, fun h => ?_⟩
    · rcases h with ⟨ref, ⟨href, hdistance⟩, hnames⟩
      exact ⟨⟨ref, href, hnames⟩, hdistance⟩
    · rcases h with ⟨⟨ref, href, hnames⟩, hdistance⟩
      exact ⟨ref, ⟨href, hdistance⟩, hnames⟩
  rw [hmem]
  split
  · rename_i hid
    rw [Set.mem_insert_iff, and_iff_right hid, or_comm]
  · rename_i hid
    exact or_iff_left fun hboth => hid hboth.1

theorem isLeast_nearer {known : Option Nat} {distances : Set Nat}
    (hleast : ∀ d, known = some d → IsLeast distances d) (hnone : known = none → distances = ∅)
    (distance : Nat) : IsLeast (insert distance distances) (Candidates.nearer known distance) := by
  cases known with
  | none =>
      rw [hnone rfl, LawfulSingleton.insert_empty_eq]
      exact isLeast_singleton
  | some d => exact (hleast d rfl).insert distance

theorem Gathers.collect (h : suggester.Gathers listed candidates) (refs : List OwnerRef)
    (distance : Nat) :
    suggester.Gathers (listedAlso listed refs distance)
      (candidates.collect (suggester.resolver.resolve refs) distance) where
  nodup := Candidates.nodup_keys_collect _ distance h.nodup
  known id := by
    rw [Candidates.mem_keys_collect, h.known, distancesOf_also]
    split
    · rename_i hid
      exact iff_of_true (.inr hid) (Set.insert_nonempty _ _)
    · rename_i hid
      exact or_iff_left hid
  nearest id d hd := by
    rw [Candidates.get?_collect] at hd
    rw [distancesOf_also]
    split at hd
    · rename_i hid
      cases hd
      rw [if_pos hid]
      refine isLeast_nearer (h.nearest id) (fun hnone => ?_) distance
      rw [Table.get?_eq_none_iff, h.known] at hnone
      exact Set.not_nonempty_iff_eq_empty.mp hnone
    · rename_i hid
      rw [if_neg hid]
      exact h.nearest id d hd
  reluctant id := by
    have hsome := exists_listedAlso listed refs distance fun ref =>
      suggester.resolver.Names ref id ∧ Remark.neverSuggest ∈ ref.remarks
    unfold IsReluctant
    rw [hsome, Candidates.mem_reluctant_collect, h.reluctant, Resolver.hasRemark_resolve,
      Resolver.mem_accounts_resolve]
    refine or_congr_right ⟨fun hboth => hboth.2, fun hremark => ⟨?_, hremark⟩⟩
    rcases hremark with ⟨ref, href, hnames, _⟩
    exact ⟨ref, href, hnames⟩
  everybody := by
    have hsome := exists_listedAlso listed refs distance fun ref => ref.isEverybody = true
    unfold ListsEverybody
    rw [hsome, Candidates.everybody_collect, Bool.or_eq_true, h.everybody,
      Resolver.everybody_resolve, List.any_eq_true]
    rfl

/-!
# Gathering from levels

The walk that collects candidates never stops early, so it is a fold over the levels.
-/

def collectLevel (suggester : Suggester) (path : String) (candidates : Candidates)
    (level : Level) : Except Failure Candidates := do
  let owners ← (suggester.resolver.pathOwners level.config path).mapError Failure.path
  let collected := candidates.collect owners level.distance
  let ignoresGlobal ← Engine.shutsOut path collected.ignoresGlobal level
  return { collected with ignoresGlobal }

/-- The global owners come last, at the greatest distance. -/
def collectGlobals (suggester : Suggester) (globalOwners : List String) (greatest : Nat)
    (candidates : Candidates) : Candidates :=
  if candidates.ignoresGlobal then candidates
  else
    let owners := suggester.resolver.resolve (globalOwners.map fun email => { email })
    candidates.collect owners greatest

def gather (suggester : Suggester) (path : String) (globalOwners : List String) (greatest : Nat)
    (levels : List Level) : Except Failure Candidates :=
  suggester.collectGlobals globalOwners greatest <$>
    levels.foldlM (suggester.collectLevel path) {}

theorem visitAll_collectStep (suggester : Suggester) (path : String) (candidates : Candidates)
    (levels : List Level) :
    visitAll (suggester.collectStep path) candidates levels =
      ForInStep.yield <$> levels.foldlM (suggester.collectLevel path) candidates := by
  induction levels generalizing candidates with
  | nil => rfl
  | cons level rest ih =>
      have hstep : suggester.collectStep path candidates level =
          ForInStep.yield <$> suggester.collectLevel path candidates level := by
        unfold collectStep collectLevel
        simp only [map_bind, map_pure]
      rw [List.foldlM_cons]
      unfold visitAll
      rw [hstep]
      cases suggester.collectLevel path candidates level with
      | error failure => rfl
      | ok next => exact ih next

theorem candidates_eq (suggester : Suggester) (place : Place) (greatest : Nat) :
    suggester.candidates place greatest =
      (visitLevels suggester.site place {} (suggester.visitLevel place.path) >>= fun collected =>
        pure (suggester.collectGlobals (suggester.site.configs.get place.project).globalOwners
          greatest collected)) := by
  unfold Suggester.candidates
  congr 1
  funext collected
  unfold collectGlobals
  cases collected.ignoresGlobal with
  | true => rfl
  | false =>
      -- without global owners collecting is not even begun, and it would change nothing
      cases (suggester.site.configs.get place.project).globalOwners with
      | nil => exact congrArg pure (collected.collect_nobody greatest).symm
      | cons first rest => rfl

theorem run_candidates_eq_ok {place : Place} {greatest : Nat} {s s' : Session} :
    (suggester.candidates place greatest).run s = (.ok candidates, s') ↔
      ∃ levels, (Hierarchy.levels suggester.site place).run s = (.ok levels, s') ∧
        suggester.gather place.path (suggester.site.configs.get place.project).globalOwners greatest
          levels = .ok candidates := by
  rw [candidates_eq]
  constructor
  · intro hrun
    rcases run_bind_eq_ok.mp hrun with ⟨collected, t, hvisit, hend⟩
    cases hend
    rcases shows_of_run (suggester.visitLevel_eq place.path) hvisit with
      ⟨levels, complete, hshows, hall⟩
    rw [visitAll_collectStep] at hall
    rcases except_map_eq_ok.mp hall with ⟨gathered, hgathered, hstep⟩
    cases complete with
    | false => cases hstep
    | true =>
        cases hstep
        exact ⟨levels, hshows.run_levels, except_map_eq_ok.mpr ⟨collected, hgathered, rfl⟩⟩
  · intro h
    rcases h with ⟨levels, hlevels, hgather⟩
    rcases except_map_eq_ok.mp hgather with ⟨collected, hcollected, rfl⟩
    have hall : visitAll (suggester.collectStep place.path) {} levels =
        .ok (.yield collected) := by
      rw [visitAll_collectStep, hcollected]
      rfl
    have hvisit := (shows_of_run_levels hlevels).run_of_yield
      (suggester.visitLevel_eq place.path) hall
    exact run_bind_eq_ok.mpr ⟨collected, s', hvisit, rfl⟩

theorem collectLevel_eq_ok (hpath : Path.normalize asked = .ok path) {next : Candidates}
    (h : suggester.collectLevel asked candidates level = .ok next) :
    (∃ refs, (∀ ref, ref ∈ refs ↔ ∃ set, level.config.HasFor path set ∧ ref ∈ set.owners) ∧
      next = { candidates.collect (suggester.resolver.resolve refs) level.distance with
        ignoresGlobal := next.ignoresGlobal }) ∧
      (next.ignoresGlobal = false ↔ candidates.ignoresGlobal = false ∧
        ∀ set, level.config.HasFor asked set → set.overrides = false) := by
  rcases except_bind_eq_ok.mp h with ⟨owners, howners, hrest⟩
  rcases except_bind_eq_ok.mp hrest with ⟨ignores, hignores, hend⟩
  cases hend
  rcases Resolver.exists_refs_of_pathOwners hpath (except_mapError_eq_ok.mp howners) with
    ⟨refs, rfl, hrefs⟩
  refine ⟨⟨refs, hrefs, rfl⟩, ?_⟩
  rw [Candidates.ignoresGlobal_collect] at hignores
  unfold Engine.shutsOut at hignores
  split at hignores
  · rename_i hbefore
    cases hignores
    rw [hbefore]
    simp
  · rename_i hbefore
    rw [Bool.not_eq_true] at hbefore
    rw [and_iff_right hbefore]
    exact OwnerConfig.overridesFor_eq_false (except_mapError_eq_ok.mp hignores)

def listedAt (levels : List Level) (path : String) (ref : OwnerRef) (distance : Nat) : Prop :=
  ∃ level ∈ levels, (∃ set, level.config.HasFor path set ∧ ref ∈ set.owners) ∧
    distance = level.distance

theorem Gathers.foldLevels (hpath : Path.normalize asked = .ok path) {final : Candidates}
    (h : suggester.Gathers listed candidates)
    (hall : levels.foldlM (suggester.collectLevel asked) candidates = .ok final) :
    suggester.Gathers (fun ref distance => listed ref distance ∨ listedAt levels path ref distance)
      final ∧
      (final.ignoresGlobal = false ↔ candidates.ignoresGlobal = false ∧
        ∀ level ∈ levels, ∀ set, level.config.HasFor asked set → set.overrides = false) := by
  induction levels generalizing candidates listed with
  | nil =>
      cases hall
      exact ⟨h.congr fun ref distance => by simp [listedAt], by simp⟩
  | cons level rest ih =>
      rw [List.foldlM_cons] at hall
      rcases except_bind_eq_ok.mp hall with ⟨next, hlevel, hrest⟩
      rcases collectLevel_eq_ok hpath hlevel with ⟨⟨refs, hrefs, hnext⟩, hopen⟩
      have hcollected := h.collect refs level.distance
      have hhere : suggester.Gathers (listedAlso listed refs level.distance) next := by
        rw [hnext]
        exact ⟨hcollected.nodup, hcollected.known, hcollected.nearest, hcollected.reluctant,
          hcollected.everybody⟩
      rcases ih hhere hrest with ⟨hgathers, hfinal⟩
      constructor
      · apply hgathers.congr
        intro ref distance
        unfold listedAlso listedAt
        rw [or_assoc, hrefs, List.exists_mem_cons_iff]
      · rw [hfinal, hopen, and_assoc, List.forall_mem_cons]

theorem listing_iff_of_shut (h : ¬ ∀ level ∈ levels, ∀ set, level.config.HasFor asked set →
      set.overrides = false) :
    listedAt levels path ref distance ↔
      Listing levels path asked globalOwners greatest ref distance := by
  constructor
  · intro hlisted
    rcases hlisted with ⟨level, hlevel, ⟨set, hset, href⟩, rfl⟩
    exact .level hlevel hset href
  · intro hlisted
    cases hlisted with
    | level hlevel hset href => exact ⟨_, hlevel, ⟨_, hset, href⟩, rfl⟩
    | global _ hopen => exact absurd hopen h

theorem listing_iff_of_open (h : ∀ level ∈ levels, ∀ set, level.config.HasFor asked set →
      set.overrides = false) :
    listedAlso (listedAt levels path) (globalOwners.map fun email => { email }) greatest ref
        distance ↔ Listing levels path asked globalOwners greatest ref distance := by
  unfold listedAlso
  rw [List.mem_map]
  constructor
  · intro hlisted
    rcases hlisted with ⟨level, hlevel, ⟨set, hset, href⟩, rfl⟩ | ⟨⟨email, hemail, rfl⟩, rfl⟩
    · exact .level hlevel hset href
    · exact .global hemail h
  · intro hlisted
    cases hlisted with
    | level hlevel hset href => exact .inl ⟨_, hlevel, ⟨_, hset, href⟩, rfl⟩
    | global hemail _ => exact .inr ⟨⟨_, hemail, rfl⟩, rfl⟩

/-- The candidates of the levels and the global owners are what these list for the path. -/
theorem gathers_of_gather (hpath : Path.normalize asked = .ok path)
    (h : suggester.gather asked globalOwners greatest levels = .ok candidates) :
    suggester.Gathers (Listing levels path asked globalOwners greatest) candidates := by
  rcases except_map_eq_ok.mp h with ⟨collected, hall, rfl⟩
  rcases (gathers_empty suggester).foldLevels hpath hall with ⟨hgathers, hopen⟩
  rw [and_iff_right rfl] at hopen
  have hlevels : suggester.Gathers (listedAt levels path) collected :=
    hgathers.congr fun ref distance => iff_of_eq (false_or _)
  unfold collectGlobals
  split
  · rename_i hshut
    apply hlevels.congr
    intro ref distance
    apply listing_iff_of_shut
    intro hall
    rw [hopen.mpr hall] at hshut
    cases hshut
  · rename_i hasked
    rw [Bool.not_eq_true] at hasked
    apply (hlevels.collect _ greatest).congr
    intro ref distance
    exact listing_iff_of_open (hopen.mp hasked)

/-!
# From candidates to suggestions
-/

def ranked (suggester : Suggester) (request : Request) (greatest : Nat) (candidates : Candidates) :
    List SuggestedOwner :=
  let scored := fun id =>
    suggester.scored request.reviewers greatest (candidates.distances.getD id 0) id
  Suggestion.rank request.seed SuggestedOwner.accountId SuggestedOwner.score
    ((suggester.choose request.changeOwner candidates).1.map scored)

def conclude (suggester : Suggester) (request : Request) (path : String) (greatest : Nat)
    (candidates : Candidates) : SuggestionResult where
  path
  owners := (suggester.ranked request greatest candidates).take request.limit.toNat
  everybody := candidates.everybody
  notes := candidates.notes ++ (suggester.choose request.changeOwner candidates).2

def suggestionFrom (suggester : Suggester) (request : Request) (path : String)
    (globalOwners : List String) (greatest : Nat) (levels : List Level) :
    Except Failure SuggestionResult :=
  suggester.conclude request path greatest <$>
    suggester.gather path globalOwners greatest levels

theorem run_suggest_eq_ok {place : Place} {request : Request} {result : SuggestionResult}
    {s s' : Session}
    (henabled : (suggester.site.configs.get place.project).isDisabled place.branch = false) :
    (suggester.suggest place request).run s = (.ok result, s') ↔
      ∃ normal folders levels, Path.normalize place.path = .ok normal ∧
        Path.ancestorFolders normal = .ok folders ∧
        (Hierarchy.levels suggester.site { place with path := normal }).run s = (.ok levels, s') ∧
        suggester.suggestionFrom request normal
          (suggester.site.configs.get place.project).globalOwners folders.length levels =
            .ok result := by
  unfold suggest
  rw [henabled]
  constructor
  · intro hrun
    rcases run_bind_eq_ok.mp hrun with ⟨normal, t, hpath, hrest⟩
    rcases run_liftExcept_eq_ok hpath with ⟨hnormal, rfl⟩
    rcases run_bind_eq_ok.mp hrest with ⟨folders, u, habove, hcollects⟩
    rcases run_liftExcept_eq_ok habove with ⟨hfolders, rfl⟩
    rcases run_bind_eq_ok.mp hcollects with ⟨candidates, v, hcandidates, hend⟩
    cases hend
    rcases run_candidates_eq_ok.mp hcandidates with ⟨levels, hlevels, hgather⟩
    exact ⟨normal, folders, levels, except_mapError_eq_ok.mp hnormal,
      except_mapError_eq_ok.mp hfolders, hlevels,
      except_map_eq_ok.mpr ⟨candidates, hgather, rfl⟩⟩
  · intro h
    rcases h with ⟨normal, folders, levels, hnormal, hfolders, hlevels, hresult⟩
    rcases except_map_eq_ok.mp hresult with ⟨candidates, hgather, rfl⟩
    rw [hnormal]
    refine run_bind_eq_ok.mpr ⟨normal, s, rfl, ?_⟩
    rw [if_neg Bool.false_ne_true, hfolders]
    refine run_bind_eq_ok.mpr ⟨folders, s, rfl, ?_⟩
    have hcandidates := run_candidates_eq_ok.mpr ⟨levels, hlevels, hgather⟩
    exact run_bind_eq_ok.mpr ⟨candidates, s', hcandidates, rfl⟩

end Suggester
end Ownership
