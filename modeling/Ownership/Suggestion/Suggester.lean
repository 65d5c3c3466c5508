import Ownership.Hierarchy.Levels
import Ownership.Resolver
import Ownership.Suggestion.Rank
import Ownership.Suggestion.Score

/-!
# Suggestions

The owners of a path are suggested as reviewers, those near to the path and those who review
already before others.  The owner of the change and service users are left out, and so are owners
who do not want to be suggested, as long as somebody else is left.  Hidden accounts never show.
-/

namespace Ownership

structure SuggestedOwner where
  accountId : Int
  email : Option String := none
  displayName : Option String := none
  score : Float
  scores : Table String Float := {}

structure SuggestionResult where
  path : String
  owners : List SuggestedOwner := []
  everybody : Bool := false
  /-- Why owners were left out. -/
  notes : List String := []

structure Suggester where
  site : Site
  directory : Directory := {}
  visibility : Visibility := {}
  viewer : Option Int := none

namespace Suggester

def resolver (suggester : Suggester) : Resolver :=
  { directory := suggester.directory, visibility := suggester.visibility
    viewer := suggester.viewer }

/-!
# Collecting candidates
-/

/-- The owners met so far, each with its smallest distance. -/
structure Candidates where
  distances : Table Int Nat := {}
  /-- Owners who do not want to be suggested. -/
  reluctant : List Int := []
  everybody : Bool := false
  notes : List String := []
  ignoresGlobal : Bool := false
deriving DecidableEq, Repr

namespace Candidates

def addAccount (candidates : Candidates) (owners : PathOwners) (distance : Nat) (id : Int) :
    Candidates :=
  { candidates with
    distances :=
      match candidates.distances.get? id with
      | some known =>
          if distance < known then candidates.distances.insert id distance else candidates.distances
      | none => candidates.distances.insert id distance
    reluctant :=
      if owners.hasRemark id Remark.neverSuggest then candidates.reluctant ++ [id]
      else candidates.reluctant }

def collect (candidates : Candidates) (owners : PathOwners) (distance : Nat) : Candidates :=
  let noted := { candidates with
    everybody := candidates.everybody || owners.everybody
    notes := candidates.notes ++
      owners.unresolved.map fun email => "cannot resolve code owner email " ++ email }
  owners.accounts.foldl (fun candidates id => candidates.addAccount owners distance id) noted

end Candidates

def visitLevel (suggester : Suggester) (path : String) (candidates : Candidates)
    (level : Hierarchy.Level) : Walk (ForInStep Candidates) := do
  let owners ← liftExcept ((suggester.resolver.pathOwners level.config path).mapError Failure.path)
  let candidates := candidates.collect owners level.distance
  let ignoresGlobal ←
    if candidates.ignoresGlobal then pure true
    else liftExcept ((level.ignoresGlobalOwners path).mapError Failure.path)
  return .yield { candidates with ignoresGlobal }

/-!
# Choosing among them
-/

def leftOutNote (id : Int) (reason : String) : String :=
  "filtering out account " ++ Text.integerText id ++ " because this code owner is " ++ reason

def exclusion? (suggester : Suggester) (changeOwner : Option Int) (id : Int) : Option String :=
  if changeOwner = some id then some "the change owner"
  else if suggester.directory.isServiceUser id then some "a service user"
  else none

/-- The accounts to suggest, in the order of their numbers, and notes about the others.  Owners
who do not want to be suggested are kept if nobody else is left. -/
def choose (suggester : Suggester) (changeOwner : Option Int) (candidates : Candidates) :
    List Int × List String :=
  let ids := candidates.distances.keys.mergeSort fun a b => decide (a ≤ b)
  let excluded := ids.filterMap fun id =>
    (suggester.exclusion? changeOwner id).map (leftOutNote id)
  let kept := ids.filter fun id => (suggester.exclusion? changeOwner id).isNone
  let (reluctant, willing) := kept.partition fun id => decide (id ∈ candidates.reluctant)
  if willing.isEmpty then (kept, excluded)
  else
    (willing, excluded ++ reluctant.map fun id =>
      leftOutNote id ("annotated with " ++ Remark.neverSuggest.key))

def scored (suggester : Suggester) (reviewers : Option (List Int)) (greatest distance : Nat)
    (id : Int) : SuggestedOwner :=
  let near := (distanceFeature, Suggestion.distanceScore distance greatest)
  let reviewing : List (String × Float) := match reviewers with
    | some reviewers => [(reviewerFeature, if id ∈ reviewers then 1.0 else 0.0)]
    | none => []
  let scores := Table.ofList (near :: reviewing)
  let weights := Table.ofList <| (distanceFeature, Suggestion.distanceWeight) ::
    reviewing.map fun _ => (reviewerFeature, Suggestion.reviewerWeight)
  let account := suggester.directory.get? id
  { accountId := id
    email := account.bind Account.firstEmail?
    displayName := account.bind Account.displayName
    score := Suggestion.linearScore scores weights
    scores }
where
  distanceFeature := Suggestion.distanceFeature
  reviewerFeature := Suggestion.reviewerFeature

/-!
# Suggesting
-/

structure Request where
  seed : Int
  limit : Int := 10
  reviewers : Option (List Int) := none
  changeOwner : Option Int := none
deriving DecidableEq, Repr

def candidates (suggester : Suggester) (place : Hierarchy.Place) (greatest : Nat) :
    Walk Candidates := do
  let candidates ← Hierarchy.visitLevels suggester.site place {} (suggester.visitLevel place.path)
  let globalOwners := (suggester.site.configs.get place.project).globalOwners
  if candidates.ignoresGlobal || globalOwners.isEmpty then return candidates
  else
    let owners := suggester.resolver.resolve (globalOwners.map fun email => { email })
    return candidates.collect owners greatest

def suggest (suggester : Suggester) (place : Hierarchy.Place) (request : Request) :
    Walk SuggestionResult := do
  let path ← liftExcept ((Path.normalize place.path).mapError Failure.path)
  if (suggester.site.configs.get place.project).isDisabled place.branch then
    return { path, notes :=
      ["code owners functionality is disabled for branch " ++ place.branch] }
  else
    let folders ← liftExcept ((Path.ancestorFolders path).mapError Failure.path)
    let greatest := folders.length
    let candidates ← suggester.candidates { place with path } greatest
    let (ids, notes) := suggester.choose request.changeOwner candidates
    let owners := ids.map fun id =>
      suggester.scored request.reviewers greatest (candidates.distances.getD id 0) id
    let ranked := Suggestion.rank request.seed SuggestedOwner.accountId SuggestedOwner.score owners
    return {
      path
      owners := ranked.take request.limit.toNat
      everybody := candidates.everybody
      notes := candidates.notes ++ notes }

/-- Suggestions for a change, seen at the head of its branch.  The number of the change decides
about equal scores. -/
def suggestForChange (suggester : Suggester) (change : Change) (path : String) (limit : Int) :
    Walk SuggestionResult := do
  match ← liftExcept (suggester.site.tree.branchHead change.project change.branch) with
  | none => throw (.tree (.unknownBranch change.project change.branch))
  | some revision =>
      suggester.suggest { project := change.project, branch := change.branch, revision, path }
        { seed := change.number, limit, reviewers := some change.reviewers
          changeOwner := some change.owner }

/-!
# Suggestions for a branch
-/

def isRevisionDigit (c : Char) : Bool := ('0' ≤ c && c ≤ '9') || ('a' ≤ c && c ≤ 'f')

/-- A revision is forty hexadecimal digits; a line feed may follow. -/
def isRevision (revision : String) : Bool :=
  let s := revision.toList
  let digits := s.takeWhile isRevisionDigit
  digits.length = 40 && decide (s.drop 40 = [] ∨ s.drop 40 = ['\n'])

/-- The revision to look at: the one asked for, if it belongs to the branch, or the head. -/
def branchRevision (suggester : Suggester) (project branch : String) (asked : Option String) :
    Except Failure String := do
  match asked with
  | some revision =>
      if !isRevision revision then throw (.revision .malformed)
      else if ← suggester.site.tree.containsRevision project branch revision then return revision
      else throw (.revision .unknown)
  | none =>
      match ← suggester.site.tree.branchHead project branch with
      | some revision => return revision
      | none => throw (.revision (.unknownBranch branch))

def suggestForBranch (suggester : Suggester) (project branch path : String)
    (revision : Option String) (seed limit : Int) : Walk SuggestionResult := do
  let revision ← liftExcept (suggester.branchRevision project branch revision)
  suggester.suggest { project, branch, revision, path } { seed, limit }

end Suggester
end Ownership
