import Mathlib.Algebra.Order.Ring.Int
import Ownership.Number.Double

/-!
# The order of doubles

The bits of a double behind its sign, read as one number, grow with the double: an exponent that is
greater by one outweighs every mantissa.  With the sign put back this number is the key by which
doubles are sorted, and it puts them in the order of the numbers they stand for.
-/

namespace Ownership
namespace Number
namespace Double

open Float.Model
open Float.Model.UnpackedFloat (Sign)

variable {x y : Float} {u v : UnpackedFloat} {s t : Sign} {a b m n : Nat} {d e : Int}

/-!
# The size of a double
-/

/-- A mantissa of 53 digits in front of a binary exponent, and the number that exponent and mantissa
make up when they stand side by side.  Only the lowest exponent has mantissas without a leading
digit. -/
structure Joins (e : Int) (m a : Nat) : Prop where
  lowest : -1074 ≤ e
  leading : e ≠ -1074 → 2 ^ 52 ≤ m
  width : m < 2 ^ 53
  joined : (a : Int) = (e + 1074) * 2 ^ 52 + m

/-- The sign of an unpacked double that is not NaN, and its bits behind the sign. -/
inductive Weighs : UnpackedFloat → Sign → Nat → Prop
  | zero (s : Sign) : Weighs (.zero s) s 0
  | finite (s : Sign) {m : Nat} {e : Int} {a : Nat} (hpos : 0 < m) (hjoins : Joins e m a)
      (hbelow : a < 2047 * 2 ^ 52) : Weighs (.finite s m e hpos) s a
  | infinity (s : Sign) : Weighs (.infinity s) s (2047 * 2 ^ 52)

def signed : Sign → Nat → Int
  | .positive, a => a
  | .negative, a => -a

theorem Joins.pos (h : Joins e m a) (hpos : 0 < m) : 0 < a := by
  have hlowest := h.lowest
  have hjoined := h.joined
  omega

theorem joins_of_lowest (h : a < 2 ^ 52) : Joins (-1074) a a where
  lowest := by omega
  leading := fun hne => absurd rfl hne
  width := by omega
  joined := by omega

theorem joins_of_raised (h : a / 2 ^ 52 ≠ 0) :
    Joins ((a / 2 ^ 52 : Nat) - (1023 + 52)) (2 ^ 52 + a % 2 ^ 52) a where
  lowest := by omega
  leading := by omega
  width := by omega
  joined := by omega

/-- The exponents decide, and the mantissas where they are equal. -/
theorem compare_of_joins (h : Joins d m a) (h' : Joins e n b) :
    (compare d e).then (compare m n) = compare a b := by
  have hleading := h.leading
  have hleading' := h'.leading
  have hwidth := h.width
  have hwidth' := h'.width
  have hjoined := h.joined
  have hjoined' := h'.joined
  have hlowest := h.lowest
  have hlowest' := h'.lowest
  rcases lt_trichotomy d e with hlt | rfl | hgt
  · have hless : a < b := by omega
    rw [compare_lt_iff_lt.mpr hlt, compare_lt_iff_lt.mpr hless]
    rfl
  · rw [compare_eq_iff_eq.mpr rfl]
    change compare m n = compare a b
    rcases lt_trichotomy m n with hlt | rfl | hgt
    · have hless : a < b := by omega
      rw [compare_lt_iff_lt.mpr hlt, compare_lt_iff_lt.mpr hless]
    · have hsame : a = b := by omega
      rw [compare_eq_iff_eq.mpr rfl, compare_eq_iff_eq.mpr hsame]
    · have hmore : b < a := by omega
      rw [compare_gt_iff_gt.mpr hgt, compare_gt_iff_gt.mpr hmore]
  · have hmore : b < a := by omega
    rw [compare_gt_iff_gt.mpr hgt, compare_gt_iff_gt.mpr hmore]
    rfl

theorem le_iff_signed_le (h : Weighs u s a) (h' : Weighs v t b) :
    u.le v = true ↔ signed s a ≤ signed t b := by
  unfold UnpackedFloat.le
  cases h with
  | zero =>
      cases h' with
      | zero => cases s <;> cases t <;> dsimp only [UnpackedFloat.compare, signed] <;> simp
      | finite _ hpos hjoins _ =>
          have hpositive := hjoins.pos hpos
          cases s <;> cases t <;> dsimp only [UnpackedFloat.compare, signed] <;> simp <;> omega
      | infinity => cases s <;> cases t <;> dsimp only [UnpackedFloat.compare, signed] <;> simp
  | finite _ hpos hjoins hbelow =>
      have hpositive := hjoins.pos hpos
      cases h' with
      | zero =>
          cases s <;> cases t <;> dsimp only [UnpackedFloat.compare, signed] <;> simp <;> omega
      | finite _ hpos' hjoins' hbelow' =>
          have hpositive' := hjoins'.pos hpos'
          have hcompare := compare_of_joins hjoins hjoins'
          cases s <;> cases t <;> dsimp only [UnpackedFloat.compare, signed] <;>
            simp [hcompare, Std.isLE_compare, Std.isGE_compare]
          omega
      | infinity =>
          cases s <;> cases t <;> dsimp only [UnpackedFloat.compare, signed] <;> simp <;> omega
  | infinity =>
      cases h' with
      | zero => cases s <;> cases t <;> dsimp only [UnpackedFloat.compare, signed] <;> simp
      | finite _ hpos hjoins hbelow =>
          have hpositive := hjoins.pos hpos
          cases s <;> cases t <;> dsimp only [UnpackedFloat.compare, signed] <;> simp <;> omega
      | infinity => cases s <;> cases t <;> decide

/-!
# The bits of a double
-/

def signOf (x : Float) : Sign := if isNegative x then .negative else .positive

theorem orderKey_eq (x : Float) : orderKey x = signed (signOf x) (magnitude x) := by
  unfold orderKey signOf
  cases isNegative x <;> rfl

theorem toNat_unpackMantissa (x : Float) :
    (@UnpackedFloat.unpackMantissa .binary64 x.toModel.toBits.toBitVec).toNat =
      magnitude x % 2 ^ 52 := by
  unfold UnpackedFloat.unpackMantissa magnitude Float.toBits
  simp

theorem toNat_unpackExponent (x : Float) :
    (@UnpackedFloat.unpackExponent .binary64 x.toModel.toBits.toBitVec).toNat =
      magnitude x / 2 ^ 52 := by
  unfold UnpackedFloat.unpackExponent magnitude Float.toBits
  simp [Nat.shiftRight_eq_div_pow]
  omega

theorem ofBitVec_unpackSign (x : Float) :
    Sign.ofBitVec (@UnpackedFloat.unpackSign .binary64 x.toModel.toBits.toBitVec) =
      signOf x := by
  have hsign : (@UnpackedFloat.unpackSign .binary64 x.toModel.toBits.toBitVec).toNat =
      x.toBits.toNat / 2 ^ 63 % 2 := by
    unfold UnpackedFloat.unpackSign Float.toBits
    simp [Nat.shiftRight_eq_div_pow]
  have hbound := x.toBits.toNat_lt
  unfold Sign.ofBitVec signOf isNegative
  simp only [BitVec.toNat_eq, hsign]
  by_cases hnegative : 2 ^ 63 ≤ x.toBits.toNat
  · rw [if_neg (by simp; omega), if_pos (decide_eq_true hnegative)]
  · rw [if_pos (by simp; omega), if_neg (by simpa using hnegative)]

theorem toNat_leading {w : Nat} (fraction : BitVec w) :
    (1#1 ++ fraction).toNat = 2 ^ w + fraction.toNat := by
  rw [BitVec.toNat_append, ← Nat.shiftLeft_add_eq_or_of_lt fraction.isLt]
  simp [Nat.shiftLeft_eq]

/-- The three fields of the bits of a double that is not NaN say what it is. -/
theorem weighs_unpack (hx : x.isNaN = false) :
    Weighs x.toModel.unpack (signOf x) (magnitude x) := by
  have hmantissa := toNat_unpackMantissa x
  have hexponent := toNat_unpackExponent x
  have hbound : magnitude x < 2 ^ 63 := Nat.mod_lt _ (by decide)
  unfold Float.isNaN Float.Model.isNaN Float.Model.unpack UnpackedFloat.unpack at hx
  unfold Float.Model.unpack UnpackedFloat.unpack
  dsimp only at hx ⊢
  rw [ofBitVec_unpackSign]
  by_cases hfull : @UnpackedFloat.unpackExponent .binary64 x.toModel.toBits.toBitVec =
      -BitVec.ofNat Format.binary64.exponentBits 1
  · have hhighest : magnitude x / 2 ^ 52 = 2047 :=
      hexponent.symm.trans (congrArg BitVec.toNat hfull)
    rw [if_pos hfull] at hx ⊢
    by_cases hzero : @UnpackedFloat.unpackMantissa .binary64 x.toModel.toBits.toBitVec =
        BitVec.ofNat Format.binary64.mantissaBitsWithoutImplicit 0
    · have hnothing : magnitude x % 2 ^ 52 = 0 := hmantissa.symm.trans (congrArg BitVec.toNat hzero)
      have hsize : magnitude x = 2047 * 2 ^ 52 := by omega
      rw [if_pos hzero, hsize]
      exact .infinity _
    · rw [if_neg hzero] at hx
      cases hx
  · have hbelow : magnitude x / 2 ^ 52 ≠ 2047 := fun heq =>
      hfull (BitVec.eq_of_toNat_eq (hexponent.trans heq))
    rw [if_neg hfull]
    by_cases hlowest : @UnpackedFloat.unpackExponent .binary64 x.toModel.toBits.toBitVec =
        BitVec.ofNat Format.binary64.exponentBits 0
    · have hfield : magnitude x / 2 ^ 52 = 0 := hexponent.symm.trans (congrArg BitVec.toNat hlowest)
      rw [if_pos hlowest]
      by_cases hzero : @UnpackedFloat.unpackMantissa .binary64 x.toModel.toBits.toBitVec =
          BitVec.ofNat Format.binary64.mantissaBitsWithoutImplicit 0
      · have hnothing : magnitude x % 2 ^ 52 = 0 :=
          hmantissa.symm.trans (congrArg BitVec.toNat hzero)
        have hsize : magnitude x = 0 := by omega
        rw [dif_pos hzero, hsize]
        exact .zero _
      · have hsize : magnitude x % 2 ^ 52 = magnitude x := by omega
        rw [dif_neg hzero]
        refine .finite _ _ ?_ (by omega)
        rw [hlowest, hmantissa, hsize]
        exact joins_of_lowest (by omega)
    · have hfield : magnitude x / 2 ^ 52 ≠ 0 := fun heq =>
        hlowest (BitVec.eq_of_toNat_eq (hexponent.trans heq))
      rw [if_neg hlowest]
      refine .finite _ _ ?_ (by omega)
      rw [toNat_leading, hmantissa, hexponent]
      exact joins_of_raised hfield

theorem le_iff_orderKey_le (hx : x.isNaN = false) (hy : y.isNaN = false) :
    x ≤ y ↔ orderKey x ≤ orderKey y := by
  rw [orderKey_eq, orderKey_eq, ← le_iff_signed_le (weighs_unpack hx) (weighs_unpack hy)]
  exact decide_eq_true_iff

end Double
end Number
end Ownership
