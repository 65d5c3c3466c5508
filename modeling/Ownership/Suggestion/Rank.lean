import Ownership.Number.Double
import Ownership.Random.Shuffle

/-!
# Ranking

Owners are ranked by falling score.  Owners with equal scores come in an order that a seed decides:
all owners are put in the order of their numbers, shuffled, and then sorted by score in a way that
leaves equal scores as they are.
-/

namespace Ownership
namespace Suggestion

/-- Ranks by the draws of a shuffle; `score` is a key that grows with the score. -/
def rankWith (draws : List Nat) (number score : α → Int) (owners : List α) : List α :=
  let ordered := owners.mergeSort fun a b => decide (number a ≤ number b)
  (Random.shuffle draws ordered).mergeSort fun a b => decide (score b ≤ score a)

def rank (seed : Int) (number : α → Int) (score : α → Float) (owners : List α) : List α :=
  rankWith (Random.shuffleDraws seed owners.length) number
    (fun owner => Number.Double.orderKey (score owner)) owners

end Suggestion
end Ownership
