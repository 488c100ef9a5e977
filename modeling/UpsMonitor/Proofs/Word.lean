import Mathlib.Algebra.Group.Nat.Defs
import UpsMonitor.Word

/-!
# Words as numbers

A word is its low byte and 256 times its high byte, so that its two bytes give it back, and no other
two bytes do. A longer value is clipped to the smaller of itself and the largest word.
-/

namespace UpsMonitor.Word

theorem toNat_ofLittleEndian (low high : UInt8) :
    (ofLittleEndian low high).toNat = low.toNat + 256 * high.toNat := by
  have small : low.toNat < 2 ^ 8 := low.toNat_lt
  have fits : high.toNat < 2 ^ 8 := high.toNat_lt
  have shifted : (high.toUInt16 <<< 8).toNat = high.toNat <<< 8 := by
    rw [UInt16.toNat_shiftLeft, UInt8.toNat_toUInt16, Nat.shiftLeft_eq, Nat.shiftLeft_eq]
    simp
    omega
  rw [ofLittleEndian, UInt16.toNat_or, UInt8.toNat_toUInt16, shifted, Nat.or_comm,
    ← Nat.shiftLeft_add_eq_or_of_lt small, Nat.shiftLeft_eq]
  omega

/-- Clipping is the smaller of the two numbers. -/
theorem toNat_clip (value : UInt32) : (clip value).toNat = min 0xFFFF value.toNat := by
  unfold clip
  split
  · next large =>
    have large : 0xFFFF ≤ value.toNat := UInt32.le_iff_toNat_le.mp large
    rw [Nat.min_eq_left large]
    rfl
  · next small =>
    have small : value.toNat < 0xFFFF := by
      simpa [UInt32.le_iff_toNat_le] using small
    rw [Nat.min_eq_right (Nat.le_of_lt small), UInt32.toNat_toUInt16]
    omega

theorem ofLittleEndian_inj {low high low' high' : UInt8} :
    ofLittleEndian low high = ofLittleEndian low' high' ↔ low = low' ∧ high = high' := by
  have small := low.toNat_lt
  have small' := low'.toNat_lt
  simp only [← UInt16.toNat_inj, ← UInt8.toNat_inj, toNat_ofLittleEndian]
  omega

theorem littleEndian_eq (value : UInt16) :
    littleEndian value = [.ofNat (value.toNat % 256), .ofNat (value.toNat / 256)] := by
  have fits := value.toNat_lt
  simp only [littleEndian, List.cons.injEq, and_true, ← UInt8.toNat_inj, UInt16.toNat_toUInt8,
    UInt16.toNat_shiftRight, UInt8.toNat_ofNat']
  simp [Nat.shiftRight_eq_div_pow]

/-- The two bytes of a word give the word back. -/
theorem ofLittleEndian_bytes (value : UInt16) :
    ofLittleEndian value.toUInt8 (value >>> 8).toUInt8 = value := by
  have fits := value.toNat_lt
  have high : (value >>> 8).toNat = value.toNat / 256 := by
    rw [UInt16.toNat_shiftRight]
    exact Nat.shiftRight_eq_div_pow value.toNat 8
  apply UInt16.toNat_inj.mp
  rw [toNat_ofLittleEndian, UInt16.toNat_toUInt8, UInt16.toNat_toUInt8, high]
  omega

end UpsMonitor.Word
