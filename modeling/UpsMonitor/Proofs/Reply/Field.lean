import UpsMonitor.Proofs.Nibble
import UpsMonitor.Proofs.Word
import UpsMonitor.Reply.Gpser

/-!
# Fields of nibble characters

A field of a GPSER reply is a few nibble characters, read as one number. Main statements:

* `toNat_long`, `toNat_word`: a field is read as the number that it spells, if that fits;
* `nibbles_spell_base_sixteen`: what characters spell, and what is read out of them.
-/

namespace UpsMonitor

namespace Gpser

variable {width : Nat} {chars : Bytes}

theorem toNat_long (few : (chars.take width).length ≤ 8) :
    (long width chars).1.toNat = Nat.ofDigits 16 (Nibble.digits (chars.take width)) := by
  rw [← Nibble.value_eq_ofDigits]
  exact Nibble.toNat_decode_of_le few

/-- So few characters spell no greater number. -/
theorem toNat_long_lt {count : Nat} (few : (chars.take width).length ≤ count) :
    (long width chars).1.toNat < 16 ^ count :=
  Nat.lt_of_lt_of_le (Nibble.toNat_decode_lt (chars.take width))
    (Nat.pow_le_pow_right (by decide) few)

/-- Four characters are not clipped. -/
theorem toUInt32_word (few : (chars.take width).length ≤ 4) :
    (word width chars).1.toUInt32 = (long width chars).1 := by
  have small : (long width chars).1.toNat < 16 ^ 4 := toNat_long_lt few
  have clipped : (word width chars).1 = Word.clip (long width chars).1 := rfl
  apply UInt32.toNat_inj.mp
  rw [UInt16.toNat_toUInt32, clipped, Word.toNat_clip]
  omega

theorem toNat_word (few : (chars.take width).length ≤ 4) :
    (word width chars).1.toNat = Nat.ofDigits 16 (Nibble.digits (chars.take width)) := by
  rw [← UInt16.toNat_toUInt32, toUInt32_word few, toNat_long (Nat.le_trans few (by decide))]

end Gpser

namespace Nibble

/-- **Characters spell numbers in base 16.** The digits are the low four bits, the highest first, and
only the last eight count. A word is written in four characters from 0x30 to 0x3F and read back.
A field of four characters or fewer is read as a word without being clipped, and one of five stays
below 2 ^ 20. -/
theorem nibbles_spell_base_sixteen (chars : Bytes) :
    (decode chars).toNat = Nat.ofDigits 16 (digits chars) % 2 ^ 32 ∧
    decode (chars.rtake 8) = decode chars ∧
    (∀ number : UInt16, (encodeWord number).length = 4 ∧
      (∀ char ∈ encodeWord number, 0x30 ≤ char.toNat ∧ char.toNat ≤ 0x3F) ∧
      decode (encodeWord number) = number.toUInt32) ∧
    (∀ width, (chars.take width).length ≤ 4 →
      (Gpser.word width chars).1.toUInt32 = (Gpser.long width chars).1 ∧
      (Gpser.word width chars).1.toNat = Nat.ofDigits 16 (digits (chars.take width))) ∧
    ∀ width, (chars.take width).length = 5 →
      (Gpser.long width chars).1.toNat = Nat.ofDigits 16 (digits (chars.take width)) ∧
      (Gpser.long width chars).1.toNat < 2 ^ 20 := by
  refine ⟨?_, decode_rtake chars, fun number => ⟨?_, ?_, decode_encodeWord_eq number⟩, ?_, ?_⟩
  · rw [toNat_decode, value_eq_ofDigits]
  · exact length_encode 4 number.toUInt32
  · exact fun char => mem_encode
  · intro width few
    exact ⟨Gpser.toUInt32_word few, Gpser.toNat_word few⟩
  · intro width five
    exact ⟨Gpser.toNat_long (by omega), Gpser.toNat_long_lt (Nat.le_of_eq five)⟩

/-- The largest field of four characters is the largest word, and five reach beyond it. -/
theorem four_digits_fill_a_word :
    let chars : Bytes := [0x3F, 0x3F, 0x3F, 0x3F, 0x3F]
    (chars.take 4).length ≤ 4 ∧ (Gpser.word 4 chars).1.toUInt32 = (Gpser.long 4 chars).1 ∧
      (Gpser.word 4 chars).1.toNat = 0xFFFF ∧
      (chars.take 5).length = 5 ∧ (Gpser.long 5 chars).1.toNat = 0xFFFFF := by
  intro chars
  obtain ⟨-, -, -, short, five⟩ := nibbles_spell_base_sixteen chars
  obtain ⟨whole, four⟩ := short 4 (by decide)
  obtain ⟨spelt, -⟩ := five 5 rfl
  exact ⟨by decide, whole, four, rfl, spelt⟩

/-- Five characters can be too many for a word. -/
example : (Gpser.word 5 [0x31, 0x30, 0x30, 0x30, 0x30]).1 = 0xFFFF := by decide

end Nibble

end UpsMonitor
