import Mathlib.Data.Finset.Sort
import Ownership.Proofs.Number.Order
import Ownership.Proofs.Text.Sorting
import Ownership.Suggestion.Suggester

/-!
# The order of suggestions

A ranking puts the owners in the order of their numbers, shuffles them and sorts them by falling
score.  The first step forgets the order in which the owners came.  The second does not look at the
owners at all, so that the numbers end in a row that the draws and the numbers alone decide.  The
third leaves owners with equal scores as they stand in this row.
-/

namespace Ownership

variable {α β : Type}

/-!
# Shuffled rows
-/

namespace Random

theorem perm_exchange (row : Array α) (i j : Nat) : (exchange row i j).Perm row := by
  unfold exchange
  rw [Array.swapIfInBounds_def]
  split
  · split
    · exact Array.swap_perm _ _
    · exact .refl row
  · exact .refl row

theorem perm_shuffleFrom (row : Array α) (place : Nat) (draws : List Nat) :
    (shuffleFrom row place draws).Perm row := by
  induction place generalizing row draws with
  | zero => exact .refl row
  | succ place ih =>
      cases draws with
      | nil => exact .refl row
      | cons drawn draws => exact (ih _ draws).trans (perm_exchange row (place + 1) drawn)

theorem perm_shuffle (draws : List Nat) (xs : List α) : (shuffle draws xs).Perm xs :=
  (perm_shuffleFrom xs.toArray _ draws).toList

theorem map_exchange (f : α → β) (row : Array α) (i j : Nat) :
    (exchange row i j).map f = exchange (row.map f) i j := by
  unfold exchange
  simp only [Array.swapIfInBounds_def, Array.size_map]
  split
  · split
    · apply Array.ext
      · simp
      · intro k hk hk'
        simp only [Array.getElem_map, Array.getElem_swap, apply_ite f]
    · rfl
  · rfl

theorem map_shuffleFrom (f : α → β) (row : Array α) (place : Nat) (draws : List Nat) :
    (shuffleFrom row place draws).map f = shuffleFrom (row.map f) place draws := by
  induction place generalizing row draws with
  | zero => rfl
  | succ place ih =>
      cases draws with
      | nil => rfl
      | cons drawn draws =>
          unfold shuffleFrom
          rw [ih, map_exchange]

/-- The exchanges are the same whatever the row holds. -/
theorem map_shuffle (f : α → β) (draws : List Nat) (xs : List α) :
    (shuffle draws xs).map f = shuffle draws (xs.map f) := by
  unfold shuffle
  rw [← Array.toList_map, map_shuffleFrom, List.map_toArray, List.length_map]

end Random

namespace Suggestion

/-!
# Rankings
-/

theorem perm_rankWith (draws : List Nat) (number score : α → Int) (owners : List α) :
    (rankWith draws number score owners).Perm owners := by
  unfold rankWith
  dsimp only
  exact (List.mergeSort_perm _ _).trans
    ((Random.perm_shuffle draws _).trans (List.mergeSort_perm owners _))

theorem perm_rank (seed : Int) (number : α → Int) (score : α → Float) (owners : List α) :
    (rank seed number score owners).Perm owners :=
  perm_rankWith _ _ _ owners

/-- The order that a shuffle of numbers ends in: they are put in order, and then exchanged. -/
def tieOrder (draws : Nat → List Nat) (ids : Finset Int) : List Int :=
  Random.shuffle (draws ids.card) ids.sort

section
variable {draws : Nat → List Nat} {number score : α → Int} {owners others : List α} {a b : α}

theorem map_shuffled (draws : Nat → List Nat) (hnumbers : (owners.map number).Nodup) :
    (Random.shuffle (draws owners.length)
      (owners.mergeSort fun a b => decide (number a ≤ number b))).map number =
        tieOrder draws (owners.map number).toFinset := by
  have hsorted : (owners.map number).toFinset.sort =
      (owners.map number).mergeSort fun a b => decide (a ≤ b) := by
    have hperm := List.mergeSort_perm (owners.map number) fun a b => decide (a ≤ b)
    rw [← List.toFinset_eq_of_perm _ _ hperm, List.toFinset_sort _ (hperm.nodup_iff.mpr hnumbers)]
    exact Text.pairwise_sortedBy id (owners.map number)
  unfold tieOrder
  rw [List.toFinset_card_of_nodup hnumbers, List.length_map, hsorted, Random.map_shuffle]
  exact congrArg _ (List.map_mergeSort fun _ _ _ _ => rfl)

theorem pairwise_rankWith (draws : List Nat) (number score : α → Int) (owners : List α) :
    (rankWith draws number score owners).Pairwise fun a b => score b ≤ score a :=
  Text.pairwise_sortedBy (fun owner => OrderDual.toDual (score owner)) _

theorem rankWith_eq_of_perm {draws : List Nat} (h : others.Perm owners)
    (hnumbers : (owners.map number).Nodup) :
    rankWith draws number score others = rankWith draws number score owners := by
  unfold rankWith
  rw [Text.sortedBy_eq_of_perm h hnumbers]

/-- Of two owners with equal scores that one comes first which comes first after the shuffle. -/
theorem before_rankWith_iff (hnumbers : (owners.map number).Nodup) (ha : a ∈ owners)
    (hb : b ∈ owners) (hscore : score a = score b) :
    [a, b].Sublist (rankWith (draws owners.length) number score owners) ↔
      [number a, number b].Sublist (tieOrder draws (owners.map number).toFinset) := by
  have hperm : (Random.shuffle (draws owners.length)
      (owners.mergeSort fun a b => decide (number a ≤ number b))).Perm owners :=
    (Random.perm_shuffle _ _).trans (List.mergeSort_perm owners _)
  have hdistinct := (hperm.map number).nodup_iff.mpr hnumbers
  rw [← map_shuffled draws hnumbers,
    Text.before_map_iff hdistinct (hperm.mem_iff.mpr ha) (hperm.mem_iff.mpr hb)]
  exact Text.before_sortedBy_iff (fun owner => OrderDual.toDual (score owner)) hscore

end

/-!
# Suggested owners
-/

section
variable {owners : List SuggestedOwner}

/-- The ranking of suggested owners when the draws for a row of every length are known. -/
def rankDrawn (draws : Nat → List Nat) (owners : List SuggestedOwner) : List SuggestedOwner :=
  rankWith (draws owners.length) SuggestedOwner.accountId
    (fun owner => Number.Double.orderKey owner.score) owners

/-- A ranking loses nobody and adds nobody, higher scores come first, and where two scores are
equal the order decides which stands between the numbers of the owners. -/
structure Ranks (order : List Int) (owners ranked : List SuggestedOwner) : Prop where
  perm : ranked.Perm owners
  falling : ranked.Pairwise fun a b => b.score ≤ a.score
  ties : ∀ a ∈ owners, ∀ b ∈ owners, a.score ≤ b.score → b.score ≤ a.score →
    ([a, b].Sublist ranked ↔ [a.accountId, b.accountId].Sublist order)

theorem ranks_rankDrawn (draws : Nat → List Nat)
    (hids : (owners.map SuggestedOwner.accountId).Nodup)
    (hscores : ∀ owner ∈ owners, owner.score.isNaN = false) :
    Ranks (tieOrder draws (owners.map SuggestedOwner.accountId).toFinset) owners
      (rankDrawn draws owners) where
  perm := perm_rankWith _ _ _ owners
  falling := by
    have hperm : (rankDrawn draws owners).Perm owners := perm_rankWith _ _ _ owners
    apply (pairwise_rankWith _ _ _ owners).imp_of_mem
    intro a b ha hb hkeys
    have hscore : ∀ owner ∈ rankDrawn draws owners, owner.score.isNaN = false := fun owner howner =>
      hscores owner (hperm.mem_iff.mp howner)
    exact (Number.Double.le_iff_orderKey_le (hscore b hb) (hscore a ha)).mpr hkeys
  ties := by
    intro a ha b hb hab hba
    rw [Number.Double.le_iff_orderKey_le (hscores a ha) (hscores b hb)] at hab
    rw [Number.Double.le_iff_orderKey_le (hscores b hb) (hscores a ha)] at hba
    exact before_rankWith_iff hids ha hb (Int.le_antisymm hab hba)

/-- Owners with different numbers are ranked by falling score, whatever is drawn.  Neither their
order nor, among equal scores, the scores have a part in where they end: there the draws decide,
and the set of the numbers. -/
theorem ranks_of_distinct (seed : Int) (draws : Nat → List Nat)
    (hids : (owners.map SuggestedOwner.accountId).Nodup)
    (hscores : ∀ owner ∈ owners, owner.score.isNaN = false) :
    Ranks (tieOrder (Random.shuffleDraws seed) (owners.map SuggestedOwner.accountId).toFinset)
      owners (rank seed SuggestedOwner.accountId SuggestedOwner.score owners) ∧
    Ranks (tieOrder draws (owners.map SuggestedOwner.accountId).toFinset)
      owners (rankDrawn draws owners) ∧
    ∀ others : List SuggestedOwner, others.Perm owners →
      rank seed SuggestedOwner.accountId SuggestedOwner.score others =
        rank seed SuggestedOwner.accountId SuggestedOwner.score owners ∧
      rankDrawn draws others = rankDrawn draws owners := by
  have hreordered : ∀ (draws : Nat → List Nat) (others : List SuggestedOwner),
      others.Perm owners → rankDrawn draws others = rankDrawn draws owners := by
    intro draws others hothers
    unfold rankDrawn
    rw [hothers.length_eq]
    exact rankWith_eq_of_perm hothers hids
  refine ⟨ranks_rankDrawn (Random.shuffleDraws seed) hids hscores,
    ranks_rankDrawn draws hids hscores, fun others hothers => ⟨?_, ?_⟩⟩
  · exact hreordered (Random.shuffleDraws seed) others hothers
  · exact hreordered draws others hothers

def crew : List SuggestedOwner :=
  [{ accountId := 7, score := 1.0 }, { accountId := 3, score := 0.5 },
    { accountId := 5, score := 1.0 }, { accountId := 2, score := 1.0 }]

theorem crew_ranks :
    Ranks (tieOrder (Random.shuffleDraws 12) {7, 3, 5, 2}) crew
      (rank 12 SuggestedOwner.accountId SuggestedOwner.score crew) ∧
    Ranks [7, 5, 3, 2] crew (rankDrawn (fun _ => [0, 1, 1]) crew) ∧
    rank 12 SuggestedOwner.accountId SuggestedOwner.score crew.reverse =
      rank 12 SuggestedOwner.accountId SuggestedOwner.score crew := by
  have hids : (crew.map SuggestedOwner.accountId).Nodup := by decide
  have hscores : ∀ owner ∈ crew, owner.score.isNaN = false := by decide +kernel
  have hranks := ranks_of_distinct 12 (fun _ => [0, 1, 1]) hids hscores
  have hsort : ({7, 3, 5, 2} : Finset Int).sort = [2, 3, 5, 7] := by
    have hset : ({7, 3, 5, 2} : Finset Int) = [2, 3, 5, 7].toFinset := by decide
    rw [hset, List.toFinset_sort _ (by decide)]
    decide
  have horder : tieOrder (fun _ => [0, 1, 1]) {7, 3, 5, 2} = [7, 5, 3, 2] := by
    unfold tieOrder
    rw [hsort]
    decide
  have hdrawn := hranks.2.1
  rw [show (crew.map SuggestedOwner.accountId).toFinset = {7, 3, 5, 2} from rfl, horder] at hdrawn
  exact ⟨hranks.1, hdrawn, (hranks.2.2 crew.reverse crew.reverse_perm).1⟩

end

end Suggestion
end Ownership
