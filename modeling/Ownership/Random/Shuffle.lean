import Ownership.Random.Twister

/-!
# Shuffling

A shuffle goes through the places of a row from the last down to the second and exchanges each
with a drawn place at or before it.  The draws are a row of numbers of their own: for every seed
and length there is one row, and what it does to a list does not look at the list.
-/

namespace Ownership
namespace Random

def exchange (row : Array α) (i j : Nat) : Array α := row.swapIfInBounds i j

/-- Exchanges the last place with the first draw, the one before it with the second, and so on. -/
def shuffleFrom (row : Array α) : Nat → List Nat → Array α
  | 0, _ => row
  | _ + 1, [] => row
  | place + 1, drawn :: draws => shuffleFrom (exchange row (place + 1) drawn) place draws

def shuffle (draws : List Nat) (xs : List α) : List α :=
  (shuffleFrom xs.toArray (xs.length - 1) draws).toList

/-- The draws for the places `count`, `count - 1`, …, 1. -/
def drawPlaces (generator : Twister) : Nat → List Nat
  | 0 => []
  | count + 1 =>
      let (place, generator) := generator.drawBelow (count + 2) 1000
      place :: drawPlaces generator count

def shuffleDraws (seed : Int) (length : Nat) : List Nat :=
  drawPlaces (Twister.ofSeed seed) (length - 1)

end Random
end Ownership
