import Mathlib.Logic.Function.Basic
import UpsMonitor.Checksum
import UpsMonitor.Proofs.Word

/-!
# Steps of the cyclic check

A step mixes the new byte with the low half of the running value, spreads the mixed byte over a
word, and adds that to the high half moved down. Every part of it can be undone. Main statements:

* `crcStep_eq_iff`: two steps end alike only if the mixed bytes and the high halves were alike;
* `crcStep_injective`, `crcStep_right_inj`: a step loses nothing of the running value, and nothing
  of the byte;
* `crcStep_twice_inj`: nor do two steps in a row lose anything of their two bytes.
-/

namespace UpsMonitor.Checksum

/-- What a mixed byte adds to the value that has moved down. -/
def spread (mixed : UInt8) : UInt16 := crcStep 0 mixed

theorem mixed_eq (crc : UInt16) (byte : UInt8) :
    (crc ^^^ byte.toUInt16) &&& 0xFF = (crc.toUInt8 ^^^ byte).toUInt16 := by
  have mask := Nat.and_two_pow_sub_one_eq_mod (crc.toNat ^^^ byte.toNat) 8
  have fits := byte.toNat_lt
  apply UInt16.toNat_inj.mp
  rw [UInt16.toNat_and, UInt16.toNat_xor, UInt8.toNat_toUInt16, UInt8.toUInt16_xor,
    UInt16.toNat_xor]
  simp at mask fits ⊢
  rw [mask, Nat.xor_mod_two_pow (n := 8)]
  simp

theorem crcStep_eq (crc : UInt16) (byte : UInt8) :
    crcStep crc byte = (crc >>> 8) ^^^ spread (crc.toUInt8 ^^^ byte) := by
  simp only [spread, crcStep, mixed_eq]
  simp

/-- The mixed byte, out of the high half of what it was spread to. It takes the three foldings of
the step back, the last one first. -/
def gather (high : UInt8) : UInt8 :=
  let shifted := high ^^^ (high >>> 4)
  let folded := shifted ^^^ (shifted <<< 3) ^^^ (shifted <<< 6)
  folded ^^^ (folded <<< 4)

theorem gather_spread (mixed : UInt8) : gather (spread mixed >>> 8).toUInt8 = mixed := by
  have all : ∀ n < 256, gather (spread (UInt8.ofNat n) >>> 8).toUInt8 = UInt8.ofNat n := by
    decide +kernel
  simpa using all mixed.toNat mixed.toNat_lt

/-- The high half alone tells what was spread. -/
theorem high_spread_inj {a b : UInt8} (same : spread a >>> 8 = spread b >>> 8) : a = b := by
  rw [← gather_spread a, same, gather_spread]

/-- The new high half comes from the mixed byte alone. -/
theorem high_crcStep (crc : UInt16) (byte : UInt8) :
    crcStep crc byte >>> 8 = spread (crc.toUInt8 ^^^ byte) >>> 8 := by
  have gone : crc >>> 8 >>> 8 = 0 := by
    have fits := crc.toNat_lt
    apply UInt16.toNat_inj.mp
    simp [UInt16.toNat_shiftRight, Nat.shiftRight_eq_div_pow]
    omega
  rw [crcStep_eq, UInt16.shiftRight_xor, gone, UInt16.zero_xor]

theorem crcStep_eq_iff {s t : UInt16} {a b : UInt8} :
    crcStep s a = crcStep t b ↔ s >>> 8 = t >>> 8 ∧ s.toUInt8 ^^^ a = t.toUInt8 ^^^ b := by
  constructor
  · intro same
    have mixed : s.toUInt8 ^^^ a = t.toUInt8 ^^^ b := by
      apply high_spread_inj
      rw [← high_crcStep, ← high_crcStep, same]
    rw [crcStep_eq, crcStep_eq, mixed, UInt16.xor_left_inj] at same
    exact ⟨same, mixed⟩
  · rintro ⟨high, mixed⟩
    rw [crcStep_eq, crcStep_eq, high, mixed]

theorem crcStep_injective (byte : UInt8) : Function.Injective (crcStep · byte) := by
  intro s t same
  obtain ⟨high, mixed⟩ := crcStep_eq_iff.mp same
  have low : s.toUInt8 = t.toUInt8 := (UInt8.xor_left_inj byte).mp mixed
  rw [← Word.ofLittleEndian_bytes s, low, high, Word.ofLittleEndian_bytes]

theorem crcStep_right_inj {s : UInt16} {a b : UInt8} : crcStep s a = crcStep s b ↔ a = b := by
  rw [crcStep_eq_iff, UInt8.xor_right_inj, and_iff_right rfl]

theorem crcStep_twice_inj {s : UInt16} {a b c d : UInt8} :
    crcStep (crcStep s a) b = crcStep (crcStep s c) d ↔ a = c ∧ b = d := by
  constructor
  · intro same
    -- The high half between the two steps tells the first byte, and the second step keeps it.
    obtain ⟨high, -⟩ := crcStep_eq_iff.mp same
    rw [high_crcStep, high_crcStep] at high
    obtain rfl : a = c := (UInt8.xor_right_inj s.toUInt8).mp (high_spread_inj high)
    exact ⟨rfl, crcStep_right_inj.mp same⟩
  · rintro ⟨rfl, rfl⟩
    rfl

end UpsMonitor.Checksum
