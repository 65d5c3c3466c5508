import Ownership.Proofs.Suggestion.Gathering

/-!
# Wildcards and suggestions

A wildcard stands for everybody.  It raises a flag and adds nobody, so levels and global owners from
which the wildcards are taken out lead to the same suggestion, but for the flag.
-/

namespace Ownership

variable {path : String} {config : OwnerConfig} {level : Hierarchy.Level}

/-!
# Taking wildcards out
-/

def exceptEverybody (emails : List String) : List String :=
  emails.filter fun email => decide (email ≠ everybody)

/-- The same owners, with or without everybody. -/
def PathOwners.withEverybody (owners : PathOwners) (everybody : Bool) : PathOwners :=
  { owners with everybody }

def OwnerSet.withoutWildcards (set : OwnerSet) : OwnerSet :=
  { set with owners := set.owners.filter fun ref => !ref.isEverybody }

def OwnerConfig.withoutWildcards (config : OwnerConfig) : OwnerConfig :=
  { config with sets := config.sets.map OwnerSet.withoutWildcards }

def Hierarchy.Level.withoutWildcards (level : Level) : Level :=
  { level with config := level.config.withoutWildcards }

theorem OwnerConfig.setsFor_withoutWildcards (config : OwnerConfig) (path : String) :
    config.withoutWildcards.setsFor path =
      List.map OwnerSet.withoutWildcards <$> config.setsFor path := by
  unfold setsFor
  simp only [map_bind, map_pure]
  congr 1
  funext relative
  refine congrArg pure ?_
  exact List.filter_map

theorem Hierarchy.Level.ignoresGlobalOwners_withoutWildcards (level : Level) (path : String) :
    level.withoutWildcards.ignoresGlobalOwners path = level.ignoresGlobalOwners path := by
  unfold ignoresGlobalOwners OwnerConfig.overridesFor
  change (level.config.withoutWildcards.setsFor path >>= _) = _
  rw [OwnerConfig.setsFor_withoutWildcards]
  cases level.config.setsFor path with
  | error failure => rfl
  | ok sets =>
      change Except.ok ((sets.map OwnerSet.withoutWildcards).any OwnerSet.overrides) = _
      rw [List.any_map]
      rfl

/-!
# Resolving
-/

namespace Resolver

variable {resolver : Resolver}

theorem addAccounts_withEverybody (remarks : List Remark) (ids : List Int) (owners : PathOwners)
    (everybody : Bool) :
    ids.foldl (fun owners id => owners.addAccount remarks id) (owners.withEverybody everybody) =
      (ids.foldl (fun owners id => owners.addAccount remarks id) owners).withEverybody
        everybody := by
  induction ids generalizing owners with
  | nil => rfl
  | cons first rest ih => exact ih (owners.addAccount remarks first)

theorem addRef_withEverybody {ref : OwnerRef} (hsingle : ref.isEverybody = false)
    (owners : PathOwners) (everybody : Bool) :
    resolver.addRef (owners.withEverybody everybody) ref =
      (resolver.addRef owners ref).withEverybody everybody := by
  unfold addRef
  rw [hsingle, if_neg Bool.false_ne_true, if_neg Bool.false_ne_true]
  dsimp only
  split
  · by_cases hthere : ref.email ∈ owners.unresolved
    · simp [PathOwners.addUnresolved, PathOwners.withEverybody, hthere]
    · simp [PathOwners.addUnresolved, PathOwners.withEverybody, hthere]
  · exact addAccounts_withEverybody _ _ owners everybody

theorem resolve_withoutWildcards (refs : List OwnerRef) :
    resolver.resolve (refs.filter fun ref => !ref.isEverybody) =
      (resolver.resolve refs).withEverybody false := by
  have hfold : ∀ owners : PathOwners,
      (refs.filter fun ref => !ref.isEverybody).foldl resolver.addRef
        (owners.withEverybody false) = (refs.foldl resolver.addRef owners).withEverybody false := by
    induction refs with
    | nil => exact fun owners => rfl
    | cons first rest ih =>
        intro owners
        cases hsingle : first.isEverybody with
        | true =>
            rw [List.filter_cons_of_neg (by simp [hsingle]), List.foldl_cons, ← ih]
            unfold addRef
            rw [hsingle]
            rfl
        | false =>
            rw [List.filter_cons_of_pos (by simp [hsingle]), List.foldl_cons, List.foldl_cons,
              addRef_withEverybody hsingle, ih]
  exact hfold {}

theorem pathOwners_withoutWildcards (resolver : Resolver) (config : OwnerConfig) (path : String) :
    resolver.pathOwners config.withoutWildcards path =
      (fun owners => owners.withEverybody false) <$> resolver.pathOwners config path := by
  unfold pathOwners
  simp only [map_bind, map_pure, OwnerConfig.setsFor_withoutWildcards, bind_map_left]
  congr 1
  funext normal
  congr 1
  funext sets
  rw [← resolve_withoutWildcards, List.filter_flatMap, List.flatMap_map]
  rfl

end Resolver

def SuggestionResult.withEverybody (result : SuggestionResult) (everybody : Bool) :
    SuggestionResult :=
  { result with everybody }

namespace Suggester

open Hierarchy

variable {suggester : Suggester}

/-!
# Collecting
-/

def Candidates.withEverybody (candidates : Candidates) (everybody : Bool) : Candidates :=
  { candidates with everybody }

theorem Candidates.addAccounts_withEverybody (owners : PathOwners) (distance : Nat)
    (ids : List Int) (candidates : Candidates) (everybody : Bool) :
    ids.foldl (fun candidates id =>
        candidates.addAccount (owners.withEverybody everybody) distance id)
        (candidates.withEverybody everybody) =
      (ids.foldl (fun candidates id => candidates.addAccount owners distance id)
        candidates).withEverybody everybody := by
  induction ids generalizing candidates with
  | nil => rfl
  | cons first rest ih => exact ih (candidates.addAccount owners distance first)

theorem Candidates.collect_withEverybody (candidates : Candidates) (owners : PathOwners)
    (distance : Nat) :
    (candidates.withEverybody false).collect (owners.withEverybody false) distance =
      (candidates.collect owners distance).withEverybody false :=
  addAccounts_withEverybody owners distance owners.accounts
    { candidates with
      everybody := candidates.everybody || owners.everybody
      notes := candidates.notes ++
        owners.unresolved.map fun email => "cannot resolve code owner email " ++ email } false

theorem shutsOut_withoutWildcards (path : String) (ignoring : Bool) (level : Level) :
    Engine.shutsOut path ignoring level.withoutWildcards = Engine.shutsOut path ignoring level := by
  unfold Engine.shutsOut
  rw [Level.ignoresGlobalOwners_withoutWildcards]

theorem collectLevel_withoutWildcards (path : String) (candidates : Candidates) (level : Level) :
    suggester.collectLevel path (candidates.withEverybody false) level.withoutWildcards =
      (fun next => next.withEverybody false) <$> suggester.collectLevel path candidates level := by
  have howners := Resolver.pathOwners_withoutWildcards suggester.resolver level.config path
  unfold collectLevel
  change ((suggester.resolver.pathOwners level.config.withoutWildcards path).mapError _ >>= _) = _
  rw [howners]
  cases suggester.resolver.pathOwners level.config path with
  | error failure => rfl
  | ok owners =>
      have hcollected := candidates.collect_withEverybody owners level.distance
      change (Engine.shutsOut path ((candidates.withEverybody false).collect
        (owners.withEverybody false) level.distance).ignoresGlobal level.withoutWildcards >>= _) =
          _ <$> (Engine.shutsOut path (candidates.collect owners level.distance).ignoresGlobal
            level >>= _)
      rw [hcollected, shutsOut_withoutWildcards]
      change (Engine.shutsOut path (candidates.collect owners level.distance).ignoresGlobal
        level >>= _) = _
      cases Engine.shutsOut path (candidates.collect owners level.distance).ignoresGlobal level with
      | error failure => rfl
      | ok ignores =>
          exact congrArg (fun next : Candidates => Except.ok { next with ignoresGlobal := ignores })
            hcollected

theorem collectLevels_withoutWildcards (suggester : Suggester) (path : String)
    (candidates : Candidates) (levels : List Level) :
    (levels.map Level.withoutWildcards).foldlM (suggester.collectLevel path)
        (candidates.withEverybody false) =
      (fun next => next.withEverybody false) <$>
        levels.foldlM (suggester.collectLevel path) candidates := by
  induction levels generalizing candidates with
  | nil => rfl
  | cons level rest ih =>
      rw [List.map_cons, List.foldlM_cons, List.foldlM_cons, collectLevel_withoutWildcards]
      cases suggester.collectLevel path candidates level with
      | error failure => rfl
      | ok next => exact ih next

theorem map_exceptEverybody (emails : List String) :
    ((exceptEverybody emails).map fun email => ({ email } : OwnerRef)) =
      (emails.map fun email => { email }).filter fun ref => !ref.isEverybody := by
  rw [exceptEverybody, List.filter_map]
  congr 2
  funext email
  simp [OwnerRef.isEverybody]

theorem collectGlobals_withoutWildcards (globalOwners : List String) (greatest : Nat)
    (candidates : Candidates) :
    suggester.collectGlobals (exceptEverybody globalOwners) greatest
        (candidates.withEverybody false) =
      (suggester.collectGlobals globalOwners greatest candidates).withEverybody false := by
  have hshut : (candidates.withEverybody false).ignoresGlobal = candidates.ignoresGlobal := rfl
  unfold collectGlobals
  rw [hshut, map_exceptEverybody, Resolver.resolve_withoutWildcards,
    Candidates.collect_withEverybody]
  split <;> rfl

theorem gather_withoutWildcards (path : String) (globalOwners : List String) (greatest : Nat)
    (levels : List Level) :
    suggester.gather path (exceptEverybody globalOwners) greatest
        (levels.map Level.withoutWildcards) =
      (fun candidates => candidates.withEverybody false) <$>
        suggester.gather path globalOwners greatest levels := by
  have hlevels := collectLevels_withoutWildcards suggester path {} levels
  unfold gather
  change _ <$> (levels.map Level.withoutWildcards).foldlM (suggester.collectLevel path)
    (Candidates.withEverybody {} false) = _
  rw [hlevels]
  cases levels.foldlM (suggester.collectLevel path) {} with
  | error failure => rfl
  | ok collected =>
      exact congrArg Except.ok (collectGlobals_withoutWildcards globalOwners greatest collected)

/-!
# Suggesting
-/

theorem suggestionFrom_withoutWildcards (suggester : Suggester) (request : Request)
    (path : String) (globalOwners : List String) (greatest : Nat) (levels : List Level) :
    suggester.suggestionFrom request path
        (exceptEverybody globalOwners) greatest
        (levels.map Level.withoutWildcards) =
      (fun result => result.withEverybody false) <$>
        suggester.suggestionFrom request path globalOwners greatest levels := by
  unfold suggestionFrom
  rw [gather_withoutWildcards]
  cases suggester.gather path globalOwners greatest levels with
  | error failure => rfl
  | ok candidates => rfl

theorem suggestionFrom_of_wildcards {request : Request} {globalOwners others : List String}
    {greatest : Nat} {levels levels' : List Level} {result : SuggestionResult}
    (h : suggester.suggestionFrom request path globalOwners greatest levels = .ok result)
    (hothers : exceptEverybody others = exceptEverybody globalOwners)
    (hlevels : levels'.map Level.withoutWildcards = levels.map Level.withoutWildcards) :
    ∃ everybody, suggester.suggestionFrom request path others greatest levels' =
      .ok (result.withEverybody everybody) := by
  have hsame := suggestionFrom_withoutWildcards suggester request path others greatest levels'
  rw [hothers, hlevels, suggestionFrom_withoutWildcards, h] at hsame
  rcases except_map_eq_ok.mp hsame.symm with ⟨result', hresult', heq⟩
  refine ⟨result'.everybody, hresult'.trans (congrArg Except.ok ?_)⟩
  exact congrArg (fun result => result.withEverybody result'.everybody) heq

end Suggester
end Ownership
