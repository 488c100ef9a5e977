/-!
# Protocol vocabulary

What the two protocol families of a UPS have to name: the guard on a frame, the telemetry layout of
a SENTRY unit, the arrangement of the phases, and the bytes and lengths that go with them.
-/

namespace UpsMonitor

/-- A run of bytes as it travels on the wire. -/
abbrev Bytes := List UInt8

/-- GPSER frames are text between a start and an end byte. SENTRY frames are binary and their second
byte gives their length. -/
inductive Family
  | gpser
  | sentry
  deriving DecidableEq, Inhabited

def Family.name : Family → String
  | .gpser => "Gpser"
  | .sentry => "Sentry"

/-- How a GPSER frame is guarded: by the sum of its bytes, or by a cyclic check. -/
inductive CheckMode
  | sum
  | crc
  deriving DecidableEq, Inhabited

/-- Byte 4 of the identity block: the character 0 asks for the sum. -/
def CheckMode.ofIdentity (byte : UInt8) : CheckMode :=
  if byte = 0x30 then .sum else .crc

/-- Telemetry layouts of SENTRY units. Each is asked for by its own request byte. -/
inductive Extension
  | only192
  | also240
  | ext176
  deriving DecidableEq, Inhabited

namespace Wire

/-- The byte that starts a GPSER frame. -/
def stx : UInt8 := 0x02

/-- The byte that ends a GPSER frame. -/
def etx : UInt8 := 0x03

/-- The byte at `nakOffset` of a GPSER reply that rejects the command. -/
def nak : UInt8 := 0x15

def nakOffset : Nat := 3

/-- The first three bytes of every GPSER command. -/
def commandHeader : Bytes := [stx, 0x20, 0x22]

/-- The first three bytes of a GPSER reply: the two addresses change places. -/
def replyHeader : Bytes := [stx, 0x22, 0x20]

/-- Four checksum characters and the end byte close a GPSER frame. -/
def trailerLength : Nat := 5

/-- Header, opcode and length field precede the payload of a GPSER reply. -/
def payloadOffset : Nat := 7

def shortReply : UInt8 := 103

def longReply : UInt8 := 164

/-- Every SENTRY control command, and the request for the long reply, starts with this byte. -/
def controlOpcode : UInt8 := 176

/-- No frame is longer. -/
def maxFrame : Nat := 512

/-- No command is longer. -/
def maxCommand : Nat := 24

end Wire

def Extension.opcode : Extension → UInt8
  | .only192 => 192
  | .also240 => 240
  | .ext176 => Wire.controlOpcode

def Extension.replyLength : Extension → Nat
  | .ext176 => 164
  | _ => 103

theorem Extension.le_replyLength (level : Extension) : 103 ≤ level.replyLength := by
  cases level <;> decide

/-- Whether the input and the output each have a single phase. -/
structure PhaseLayout where
  inputSingle : Bool := true
  outputSingle : Bool := true
  deriving DecidableEq, Inhabited

/-- Byte 0 of the identity block: 1 is single on both sides, 2 on the input only, 3 on the output
only, and anything else on neither. -/
def PhaseLayout.ofIdentity (byte : UInt8) : PhaseLayout where
  inputSingle := byte = 0x31 || byte = 0x32
  outputSingle := byte = 0x31 || byte = 0x33

/-- The declared length of a status reply. A single-phase input settles it alone. -/
def PhaseLayout.statusLength (layout : PhaseLayout) : Nat :=
  if layout.inputSingle then 42 else if layout.outputSingle then 48 else 64

end UpsMonitor
