import UpsMonitor.Protocol

/-!
# Bit fields

Bits of a byte run, numbered from the lowest bit of its first byte.
-/

namespace UpsMonitor

/-- Whether a bit is set. Past the end every bit is clear. -/
def testBit (bytes : Bytes) (index : Nat) : Bool :=
  match bytes[index / 8]? with
  | some byte => byte &&& (1 <<< UInt8.ofNat (index % 8)) != 0
  | none => false

end UpsMonitor
