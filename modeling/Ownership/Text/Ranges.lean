/-!
# Character classes given by their ranges

A class of characters is written down as the increasing list of the code points at which
membership changes: the first number begins the first range, the second ends it (and is outside),
and so on.  A character belongs to the class when an odd number of changes lie at or below it.
-/

namespace Ownership
namespace Text

def inRanges (changes : List Nat) (c : Char) : Bool :=
  changes.countP (fun point => decide (point ≤ c.toNat)) % 2 = 1

end Text
end Ownership
