import Ownership.Number.Double
import Ownership.Table

/-!
# Scores

Owners are scored by features, each with a weight.  Being near to the path counts up to one,
being a reviewer already counts twice that.
-/

namespace Ownership
namespace Suggestion

/-- The weighted sum of features, added up in the order of the weights; a missing feature is
zero. -/
def linearScore (features weights : Table String Float) : Float :=
  weights.entries.foldl (fun total (name, weight) => total + weight * features.getD name 0.0) 0.0

/-- One in the folder of the file itself, falling to zero at the greatest distance. -/
def distanceScore (distance greatest : Int) : Float :=
  if greatest ≤ 0 then 1.0
  else
    let left := greatest - min distance greatest
    Number.Double.ofRatio false left.toNat greatest.toNat

def distanceFeature : String := "distance"

def reviewerFeature : String := "is_reviewer"

def distanceWeight : Float := 1.0

def reviewerWeight : Float := 2.0

end Suggestion
end Ownership
