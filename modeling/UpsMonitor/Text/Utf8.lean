import UpsMonitor.Protocol

/-!
# UTF-8

Bytes read as text. What cannot be read is either refused, or each longest beginning of a character
that breaks off is replaced by one replacement character.
-/

namespace UpsMonitor.Text.Utf8

/-- The bytes that may follow a leading byte, and how many of them there are in all. The range of the
second byte shuts out overlong forms, surrogates and what lies beyond the last code point. -/
def second? (lead : UInt8) : Option (UInt8 × UInt8 × Nat) :=
  if 0xC2 ≤ lead ∧ lead ≤ 0xDF then some (0x80, 0xBF, 1)
  else if lead = 0xE0 then some (0xA0, 0xBF, 2)
  else if lead = 0xED then some (0x80, 0x9F, 2)
  else if 0xE1 ≤ lead ∧ lead ≤ 0xEF then some (0x80, 0xBF, 2)
  else if lead = 0xF0 then some (0x90, 0xBF, 3)
  else if 0xF1 ≤ lead ∧ lead ≤ 0xF3 then some (0x80, 0xBF, 3)
  else if lead = 0xF4 then some (0x80, 0x8F, 3)
  else none

/-- The payload of a leading byte with `following` bytes behind it. -/
def leadBits (lead : UInt8) (following : Nat) : Nat :=
  match following with
  | 1 => (lead &&& 0x1F).toNat
  | 2 => (lead &&& 0x0F).toNat
  | _ => (lead &&& 0x07).toNat

/-- Takes up to `wanted` continuation bytes, the first of them from a range of its own. Gives the code
point if all are there, and how many were. -/
def continuation (low high : UInt8) (point : Nat) : Nat → Bytes → Option Nat × Nat
  | 0, _ => (some point, 0)
  | _ + 1, [] => (none, 0)
  | wanted + 1, byte :: rest =>
    if low ≤ byte ∧ byte ≤ high then
      let (found, taken) :=
        continuation 0x80 0xBF (point * 64 + (byte &&& 0x3F).toNat) wanted rest
      (found, taken + 1)
    else (none, 0)

/-- The character a leading byte begins, and how many bytes behind it belong to it. -/
def character (lead : UInt8) (rest : Bytes) : Option Char × Nat :=
  if lead < 0x80 then (some (Char.ofNat lead.toNat), 0)
  else
    match second? lead with
    | none => (none, 0)
    | some (low, high, following) =>
      let (point, taken) := continuation low high (leadBits lead following) following rest
      (point.map Char.ofNat, taken)

/-- Every character of a byte run, with `none` for each part that is no character. -/
def characters : Bytes → List (Option Char)
  | [] => []
  | lead :: rest =>
    (character lead rest).1 :: characters (rest.drop (character lead rest).2)
termination_by bytes => bytes.length
decreasing_by simp only [List.length_drop, List.length_cons]; omega

/-- Shown in place of what is no character. -/
def replacement : Char := '\uFFFD'

/-- The text of a byte run, with the replacement character for what cannot be read. -/
def decodeLossy (bytes : Bytes) : List Char := (characters bytes).map (·.getD replacement)

/-- The text of a byte run, if all of it can be read. -/
def decode? (bytes : Bytes) : Option (List Char) := (characters bytes).mapM id

end UpsMonitor.Text.Utf8
