import Ownership.Text.Utf8

/-!
# Texts as bytes

A text comes back from its bytes.  Only the zero character has a zero byte, so a zero byte can stand
between texts.
-/

namespace Ownership
namespace Text
namespace Utf8

variable {text : String} {c : Char}

theorem decode_encode (text : String) : decode (encode text) = .ok text := by
  have hbytes : (⟨(encode text).toArray⟩ : ByteArray) = text.toByteArray := by
    unfold encode
    rw [Array.toArray_toList]
    rfl
  unfold decode
  rw [hbytes]
  unfold String.fromUTF8?
  rw [dif_pos text.isValidUTF8]
  rfl

theorem encode_eq_flatMap (text : String) :
    encode text = text.toList.flatMap String.utf8EncodeChar := by
  unfold encode String.toUTF8
  rw [← String.utf8Encode_toList]
  unfold List.utf8Encode
  rw [List.data_toByteArray]

theorem mod_of_ofNat_eq_zero {n : Nat} (h : 0 = UInt8.ofNat n) : n % 256 = 0 := by
  have hvalue := congrArg UInt8.toNat h
  rw [UInt8.toNat_ofNat'] at hvalue
  exact hvalue.symm

/-- All bytes of a character that takes several have a high bit. -/
theorem toNat_of_zero_mem (h : 0 ∈ String.utf8EncodeChar c) : c.val.toNat = 0 := by
  unfold String.utf8EncodeChar at h
  dsimp only at h
  split at h
  · have hmod := mod_of_ofNat_eq_zero (List.mem_singleton.mp h)
    omega
  · split at h
    · simp only [List.mem_cons, List.not_mem_nil, or_false] at h
      rcases h with h | h <;> have hmod := mod_of_ofNat_eq_zero h <;> omega
    · split at h
      · simp only [List.mem_cons, List.not_mem_nil, or_false] at h
        rcases h with h | h | h <;> have hmod := mod_of_ofNat_eq_zero h <;> omega
      · simp only [List.mem_cons, List.not_mem_nil, or_false] at h
        rcases h with h | h | h | h <;> have hmod := mod_of_ofNat_eq_zero h <;> omega

theorem zero_notMem_encode (h : '\x00' ∉ text.toList) : 0 ∉ encode text := by
  intro hzero
  rw [encode_eq_flatMap] at hzero
  rcases List.mem_flatMap.mp hzero with ⟨c, hc, hbyte⟩
  have hnull : c = '\x00' := Char.ext (UInt32.toNat_inj.mp (toNat_of_zero_mem hbyte))
  exact h (hnull ▸ hc)

theorem encode_eq_nil_iff : encode text = [] ↔ text = "" := by
  constructor
  · intro h
    have hback := decode_encode text
    rw [h] at hback
    cases hback
    rfl
  · intro h
    rw [h]
    rfl

end Utf8
end Text
end Ownership
