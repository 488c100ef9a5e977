import Mathlib.Data.List.DropRight
import Mathlib.Data.List.Induction
import Mathlib.Data.Nat.Digits.Defs
import UpsMonitor.Nibble

/-!
# Nibble characters as digits

A run of characters spells a number in base 16, and only the low four bits of a character count.
Main statements:

* `toNat_shiftIn`: one more character is one more digit;
* `toNat_decode`: so a run of characters is read as the number it spells, up to 32 bits;
* `value_eq_ofDigits`: that number in base 16, from its digits;
* `decode_rtake`: only the last eight characters matter;
* `toNat_decode_encode`: reading what was written gives the number, as far as the width allows;
* `mem_encode`: what is written lies between 0x30 and 0x3F.
-/

namespace UpsMonitor.Nibble

/-- Only the low four bits of a character count. -/
theorem toNat_shiftIn (value : UInt32) (char : UInt8) :
    (shiftIn value char).toNat = (16 * value.toNat + char.toNat % 16) % 2 ^ 32 := by
  have low : ((char - zero) &&& 0x0F).toNat = char.toNat % 16 := by
    have mask := Nat.and_two_pow_sub_one_eq_mod ((2 ^ 8 - zero.toNat + char.toNat) % 2 ^ 8) 4
    rw [UInt8.toNat_and, UInt8.toNat_sub]
    simp [zero] at mask ⊢
    omega
  have shifted : (value <<< 4).toNat = (value.toNat % 2 ^ 28) <<< 4 := by
    rw [UInt32.toNat_shiftLeft, Nat.shiftLeft_eq, Nat.shiftLeft_eq]
    simp
    omega
  have small : char.toNat % 16 < 2 ^ 4 := by omega
  rw [shiftIn, UInt32.toNat_or, UInt8.toNat_toUInt32, low, shifted,
    ← Nat.shiftLeft_add_eq_or_of_lt small, Nat.shiftLeft_eq]
  omega

theorem toNat_digit (value : UInt32) : (digit value).toNat = 0x30 + value.toNat % 16 := by
  have low : (value &&& 0x0F).toNat = value.toNat % 16 := by
    rw [UInt32.toNat_and]
    exact Nat.and_two_pow_sub_one_eq_mod value.toNat 4
  simp only [digit, zero, UInt8.toNat_add, UInt32.toNat_toUInt8, low]
  simp
  omega

theorem decode_snoc (chars : Bytes) (last : UInt8) :
    decode (chars ++ [last]) = shiftIn (decode chars) last := by
  simp [decode]

theorem toNat_decode_encode (width : Nat) (value : UInt32) :
    (decode (encode width value)).toNat = value.toNat % 16 ^ width := by
  induction width generalizing value with
  | zero => simp [decode, encode, Nat.mod_one]
  | succ width ih =>
    have shifted : (value >>> 4).toNat = value.toNat / 16 := by
      rw [UInt32.toNat_shiftRight]
      exact Nat.shiftRight_eq_div_pow value.toNat 4
    have split := Nat.mod_mul (x := value.toNat) (a := 16) (b := 16 ^ width)
    have bound := Nat.mod_le value.toNat (16 * 16 ^ width)
    have fits := value.toNat_lt
    rw [encode, decode_snoc, toNat_shiftIn, ih, toNat_digit, shifted, Nat.pow_succ' (m := 16)]
    omega

/-- The number that a run of characters spells, in base 16 and high digit first. -/
def value (chars : Bytes) : Nat :=
  chars.foldl (fun number char => 16 * number + char.toNat % 16) 0

theorem value_snoc (chars : Bytes) (last : UInt8) :
    value (chars ++ [last]) = 16 * value chars + last.toNat % 16 := by
  simp [value]

/-- So many characters spell no greater number. -/
theorem value_lt (chars : Bytes) : value chars < 16 ^ chars.length := by
  induction chars using List.reverseRecOn with
  | nil => decide
  | append_singleton chars last ih =>
    rw [value_snoc, List.length_append, List.length_singleton, Nat.pow_succ']
    omega

theorem toNat_decode (chars : Bytes) : (decode chars).toNat = value chars % 2 ^ 32 := by
  induction chars using List.reverseRecOn with
  | nil => rfl
  | append_singleton chars last ih =>
    rw [decode_snoc, toNat_shiftIn, ih, value_snoc]
    omega

theorem toNat_decode_lt (chars : Bytes) : (decode chars).toNat < 16 ^ chars.length := by
  rw [toNat_decode]
  exact Nat.lt_of_le_of_lt (Nat.mod_le _ _) (value_lt chars)

/-- Eight characters are read in full. -/
theorem toNat_decode_of_le {chars : Bytes} (few : chars.length ≤ 8) :
    (decode chars).toNat = value chars := by
  have small : value chars < 16 ^ 8 :=
    Nat.lt_of_lt_of_le (value_lt chars) (Nat.pow_le_pow_right (by decide) few)
  rw [toNat_decode]
  exact Nat.mod_eq_of_lt small

/-- Four characters fit a word. -/
theorem toNat_decode_toUInt16 {chars : Bytes} (few : chars.length ≤ 4) :
    (decode chars).toUInt16.toNat = value chars := by
  have small : value chars < 16 ^ 4 :=
    Nat.lt_of_lt_of_le (value_lt chars) (Nat.pow_le_pow_right (by decide) few)
  rw [UInt32.toNat_toUInt16, toNat_decode_of_le (Nat.le_trans few (by decide))]
  exact Nat.mod_eq_of_lt small

/-- A number that fits its width is read back. -/
theorem decode_encode {width : Nat} {value : UInt32} (fits : value.toNat < 16 ^ width) :
    decode (encode width value) = value := by
  apply UInt32.toNat_inj.mp
  rw [toNat_decode_encode, Nat.mod_eq_of_lt fits]

theorem mem_encode {width : Nat} {value : UInt32} {char : UInt8} (h : char ∈ encode width value) :
    0x30 ≤ char.toNat ∧ char.toNat ≤ 0x3F := by
  induction width generalizing value with
  | zero => cases h
  | succ width ih =>
    rcases List.mem_append.mp h with earlier | last
    · exact ih earlier
    · rw [List.mem_singleton.mp last, toNat_digit]
      omega

theorem etx_not_mem_encode (width : Nat) (value : UInt32) : Wire.etx ∉ encode width value := by
  intro h
  have low := (mem_encode h).1
  exact absurd low (by decide)

theorem decode_encodeWord_eq (value : UInt16) : decode (encodeWord value) = value.toUInt32 := by
  have fits : value.toUInt32.toNat < 16 ^ 4 := by
    rw [UInt16.toNat_toUInt32]
    exact value.toNat_lt
  exact decode_encode fits

/-- The four characters of a word give the word back. -/
theorem decode_encodeWord (value : UInt16) : (decode (encodeWord value)).toUInt16 = value := by
  rw [decode_encodeWord_eq, UInt16.toUInt16_toUInt32]

theorem value_encodeWord (number : UInt16) : value (encodeWord number) = number.toNat := by
  have four : (encodeWord number).length ≤ 4 := Nat.le_of_eq (length_encode 4 number.toUInt32)
  rw [← toNat_decode_toUInt16 four, decode_encodeWord]

/-! ## Digits -/

/-- The digits of a run of characters, the lowest first. -/
def digits (chars : Bytes) : List Nat := chars.reverse.map fun char => char.toNat % 16

@[simp] theorem length_digits (chars : Bytes) : (digits chars).length = chars.length := by
  rw [digits, List.length_map, List.length_reverse]

theorem digits_append (earlier later : Bytes) :
    digits (earlier ++ later) = digits later ++ digits earlier := by
  rw [digits, List.reverse_append, List.map_append]
  rfl

theorem value_eq_ofDigits (chars : Bytes) : value chars = Nat.ofDigits 16 (digits chars) := by
  induction chars using List.reverseRecOn with
  | nil => rfl
  | append_singleton chars last ih =>
    have lowest : digits [last] = [last.toNat % 16] := rfl
    rw [value_snoc, digits_append, lowest, List.singleton_append, Nat.ofDigits_cons, ← ih,
      Nat.add_comm]

theorem value_append (earlier later : Bytes) :
    value (earlier ++ later) = value later + 16 ^ later.length * value earlier := by
  simp only [value_eq_ofDigits, digits_append, Nat.ofDigits_append, length_digits]

/-- Eight characters fill a number, and what stands before them is shifted out. -/
theorem decode_append (earlier : Bytes) {last : Bytes} (eight : last.length = 8) :
    decode (earlier ++ last) = decode last := by
  apply UInt32.toNat_inj.mp
  rw [toNat_decode, toNat_decode, value_append, eight]
  exact Nat.add_mul_mod_self_left ..

theorem decode_rtake (chars : Bytes) : decode (chars.rtake 8) = decode chars := by
  rcases Nat.le_total chars.length 8 with few | many
  · rw [List.rtake, Nat.sub_eq_zero_of_le few, List.drop_zero]
  · have eight : (chars.rtake 8).length = 8 := by
      rw [List.rtake, List.length_drop]
      omega
    have apart : chars.take (chars.length - 8) ++ chars.rtake 8 = chars :=
      List.take_append_drop (chars.length - 8) chars
    rw [← decode_append _ eight, apart]

end UpsMonitor.Nibble
