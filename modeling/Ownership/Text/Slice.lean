/-!
# Parts of a list

A part of a list is given by its two ends.  An end below zero counts from the back, and an end
beyond the list means the end of the list.
-/

namespace Ownership
namespace Text

/-- The position that an end means in a list of a given length. -/
def position (length : Nat) (place : Int) : Nat :=
  if place < 0 then (place + length).toNat else min place.toNat length

/-- The part from `start` up to `stop`, which is left out. -/
def slice (start : Int) (stop : Option Int) (xs : List α) : List α :=
  let first := position xs.length start
  let last := match stop with
    | some stop => position xs.length stop
    | none => xs.length
  (xs.take last).drop first

theorem slice_zero_none (xs : List α) : slice 0 none xs = xs := by
  simp [slice, position]

theorem slice_nil (start : Int) (stop : Option Int) : slice start stop ([] : List α) = [] := by
  simp [slice]

theorem position_natCast (length place : Nat) : position length place = min place length := by
  unfold position
  rw [if_neg (by omega), Int.toNat_natCast]

theorem slice_natCast (start length : Nat) (xs : List α) :
    slice start (some ((start : Int) + length)) xs = (xs.drop start).take length := by
  have hstop : (start : Int) + length = ((start + length : Nat) : Int) := by omega
  unfold slice
  dsimp only
  rw [hstop, position_natCast, position_natCast, List.drop_take]
  rcases Nat.le_total start xs.length with hstart | hstart
  · rw [Nat.min_eq_left hstart, List.take_eq_take_iff]
    simp only [List.length_drop]
    omega
  · rw [Nat.min_eq_right hstart, List.drop_length, List.drop_eq_nil_of_le hstart]
    simp

theorem slice_zero_natCast (length : Nat) (xs : List α) :
    slice 0 (some (length : Int)) xs = xs.take length := by
  have hslice := slice_natCast 0 length xs
  rw [Int.natCast_zero, Int.zero_add, List.drop_zero] at hslice
  exact hslice

end Text
end Ownership
