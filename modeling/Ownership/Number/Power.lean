/-!
# Powers

Powers are those of natural numbers, taken directly and not as those of some larger structure.
-/

namespace Ownership
namespace Number

@[default_instance 20000]
instance (priority := 2000) directPower : Pow Nat Nat := instPowNat

end Number
end Ownership
