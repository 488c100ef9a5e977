import Mathlib.Data.Nat.Bitwise
import Mathlib.Data.Nat.Digits.Defs
import UpsMonitor.BitField

/-!
# Bits and masks

A bit of a byte run is a mask on one of its bytes, wherever the run is cut, and it is a bit of the
number that the run spells. Main statements:

* `testBit_drop`: bits behind a cut are bits of the whole run;
* `testBit_eq`: a bit is a mask on its byte, and bytes past the end are clear;
* `testBit_eq_ofDigits`: a bit is that bit of the number whose bytes, low first, are the run;
* `and_or_ne_zero`: two masks together find what either finds.
-/

namespace UpsMonitor

theorem testBit_drop (bytes : Bytes) (start index : Nat) :
    testBit (bytes.drop start) index = testBit bytes (8 * start + index) := by
  have byte : (8 * start + index) / 8 = start + index / 8 := by omega
  have bit : (8 * start + index) % 8 = index % 8 := by omega
  rw [testBit, testBit, List.getElem?_drop, byte, bit]

theorem testBit_eq (bytes : Bytes) (index : Nat) :
    testBit bytes index =
      (bytes.getD (index / 8) 0 &&& (1 <<< UInt8.ofNat (index % 8)) != 0) := by
  rw [testBit, List.getD_eq_getElem?_getD]
  cases bytes[index / 8]? with
  | some byte => rfl
  | none => simp

/-- A mask of one bit finds that bit of a byte. -/
theorem and_bit_ne_zero (byte : UInt8) {bit : Nat} (inside : bit < 8) :
    (byte &&& (1 <<< UInt8.ofNat bit) != 0) = byte.toNat.testBit bit := by
  have mask : (1 <<< UInt8.ofNat bit : UInt8).toNat = 2 ^ bit := by
    have fits : 2 ^ bit < 2 ^ 8 := Nat.pow_lt_pow_right (by decide) inside
    have place : bit % 2 ^ 8 % 8 = bit := by omega
    rw [UInt8.toNat_shiftLeft, UInt8.toNat_ofNat', place, UInt8.toNat_one, Nat.one_shiftLeft,
      Nat.mod_eq_of_lt fits]
  rw [Bool.eq_iff_iff, bne_iff_ne, Ne, ← UInt8.toNat_inj, UInt8.toNat_and, mask, Nat.and_two_pow]
  cases byte.toNat.testBit bit <;> simp

theorem testBit_cons (byte : UInt8) (rest : Bytes) (index : Nat) :
    testBit (byte :: rest) index =
      if index < 8 then byte.toNat.testBit index else testBit rest (index - 8) := by
  split
  · next inside =>
    have first : index / 8 = 0 := by omega
    have place : index % 8 = index := by omega
    rw [testBit_eq, first, place, List.getD_cons_zero, and_bit_ne_zero byte inside]
  · next beyond =>
    have cut := testBit_drop (byte :: rest) 1 (index - 8)
    have whole : 8 * 1 + (index - 8) = index := by omega
    rw [whole, List.drop_one, List.tail_cons] at cut
    exact cut.symm

/-- A run is a number in base 256, low byte first, and its bits are the bits of that number. -/
theorem testBit_eq_ofDigits (bytes : Bytes) (index : Nat) :
    testBit bytes index = (Nat.ofDigits 256 (bytes.map UInt8.toNat)).testBit index := by
  induction bytes generalizing index with
  | nil => simp [testBit]
  | cons byte rest ih =>
    have place := Nat.testBit_two_pow_mul_add (Nat.ofDigits 256 (rest.map UInt8.toNat))
      byte.toNat_lt index
    rw [testBit_cons, ih, List.map_cons, Nat.ofDigits_cons, Nat.add_comm]
    exact place.symm

theorem testBit_beyond (bytes : Bytes) (index : Nat) :
    testBit bytes (8 * bytes.length + index) = false := by
  rw [← testBit_drop, List.drop_length]
  rfl

/-- **A bit has one number.** Behind a cut it is the bit of the whole run that is as many places
further on; it is that bit of the number whose bytes, low first, are the run; and every bit past the
end is clear. -/
theorem bit_is_numbered_once (bytes : Bytes) (start index : Nat) :
    testBit (bytes.drop start) index = testBit bytes (8 * start + index) ∧
    testBit bytes index = (Nat.ofDigits 256 (bytes.map UInt8.toNat)).testBit index ∧
    testBit bytes (8 * bytes.length + index) = false :=
  ⟨testBit_drop bytes start index, testBit_eq_ofDigits bytes index, testBit_beyond bytes index⟩

theorem and_or_ne_zero (byte a b : UInt8) :
    byte &&& (a ||| b) ≠ 0 ↔ byte &&& a ≠ 0 ∨ byte &&& b ≠ 0 := by
  have apart : byte &&& (a ||| b) = (byte &&& a) ||| (byte &&& b) :=
    UInt8.toBitVec_inj.mp BitVec.and_or_distrib_left
  rw [apart, Ne, UInt8.or_eq_zero_iff, not_and_or]

end UpsMonitor
