import UpsMonitor.Fault
import UpsMonitor.Nibble
import UpsMonitor.Snapshot
import UpsMonitor.Text.Blank
import UpsMonitor.Text.Utf8
import UpsMonitor.Word

/-!
# GPSER replies

Each reply is read into a record of its own, and the record is then laid over a snapshot. A reply
that is too short for its fields and the trailer behind them is refused whole.
-/

namespace UpsMonitor

namespace Gpser

/-- Reads the next `width` nibble characters of a payload as one number. -/
def long (width : Nat) : StateM Bytes UInt32 := fun chars =>
  (Nibble.decode (chars.take width), chars.drop width)

/-- Reads the next `width` nibble characters of a payload as a word. -/
def word (width : Nat) : StateM Bytes UInt16 := Word.clip <$> long width

/-- Text up to the first zero byte, without blanks at its end. -/
def text (bytes : Bytes) : String :=
  String.ofList (Text.trimEnd (Text.Utf8.decodeLossy (bytes.takeWhile (· != 0))))

/-- Some bytes out of the middle of a frame. -/
def slice (frame : Bytes) (start count : Nat) : Bytes := (frame.drop start).take count

end Gpser

open Gpser

/-- The reply to GI: who the unit is. -/
structure IdentityReply where
  serial : String
  modelName : String
  firmware : String
  block : Vector UInt8 12
  deriving DecidableEq

namespace IdentityReply

def needed : Nat := 68

/-- The last byte of the identity block is not the unit's and reads as zero. -/
def ofFrame (frame : Bytes) : Except Fault IdentityReply :=
  if h : needed ≤ frame.length then
    have : 68 ≤ frame.length := h
    .ok {
      serial := text (slice frame 7 16)
      modelName := text (slice frame 23 15)
      firmware := text (slice frame 39 12)
      block := .ofFn fun i => if i.val = 11 then 0 else frame[51 + i.val] }
  else .error (.insufficient needed frame.length)

/-- The count of batteries is a digit of the block. -/
def apply (reply : IdentityReply) (s : Snapshot) : Snapshot :=
  { s with
    serial := reply.serial
    modelName := reply.modelName
    firmware := reply.firmware
    identity := reply.block
    batteryCount := (reply.block[7] - 0x30).toUInt16 }

end IdentityReply

/-- The reply to GN: what the unit is rated for. -/
structure NominalReply where
  power : UInt32
  realPower : UInt32
  batteryVoltage : UInt16
  batteryCapacity : UInt16
  outputVoltage : UInt16
  outputFrequency : UInt16
  deriving DecidableEq

namespace NominalReply

def needed : Nat := 34

def payload : StateM Bytes NominalReply := do
  let power ← long 5
  let realPower ← long 5
  let batteryVoltage ← word 3
  let batteryCapacity ← word 3
  let outputVoltage ← word 3
  let outputFrequency ← word 3
  return { power, realPower, batteryVoltage, batteryCapacity, outputVoltage, outputFrequency }

def ofFrame (frame : Bytes) : Except Fault NominalReply :=
  if needed ≤ frame.length then .ok (payload (frame.drop Wire.payloadOffset)).1
  else .error (.insufficient needed frame.length)

/-- Powers are given in hundredths, except by units with a single phase on both sides. -/
def scaled (phases : UInt8) (power : UInt32) : UInt32 :=
  if phases = 0x31 then power else power / 100

def apply (reply : NominalReply) (s : Snapshot) : Snapshot :=
  { s with
    nominalPower := scaled s.phasesByte reply.power
    nominalRealPower := scaled s.phasesByte reply.realPower
    nominalBatteryVoltage := reply.batteryVoltage
    batteryCapacity := reply.batteryCapacity
    nominalOutputVoltage := reply.outputVoltage
    nominalOutputFrequency := reply.outputFrequency }

end NominalReply

/-- The reply to RS: how the unit is. What the declared length leaves out is zero. -/
structure StatusReply where
  code : StatusCode
  inputFrequency : UInt16
  inputVoltage : PerPhase UInt16
  outputFrequency : UInt16
  outputVoltage : PerPhase UInt16
  load : PerPhase UInt16
  bypassFrequency : UInt16
  bypassVoltage : PerPhase UInt16
  batteryVoltage : UInt16
  charge : UInt16
  runtime : UInt16
  temperature : UInt16
  deriving DecidableEq

namespace StatusReply

/-- A declared length above 42 brings the other two input phases. -/
def withInput (declared : Nat) : Bool := 42 < declared

/-- A declared length above 48 brings the other two output phases. -/
def withOutput (declared : Nat) : Bool := 48 < declared

def needed (declared : Nat) : Nat :=
  if withOutput declared then 70 else if withInput declared then 54 else 48

/-- The field value for a run time the unit does not know. -/
def runtimeUnknown : UInt16 := 0x0FFF

def runtimeOf (field : UInt16) : UInt16 := if field = runtimeUnknown then unknownWord else field

/-- The output has a frequency only while the bit for it is set. -/
def outputFrequencyOf (code : StatusCode) (field : UInt16) : UInt16 :=
  if testBit code.bytes 3 then field else 0

/-- Reads a value if it is there, and zero otherwise. -/
def word? (present : Bool) (width : Nat) : StateM Bytes UInt16 :=
  if present then word width else pure 0

/-- Everything behind the status bytes. -/
def measurements (code : StatusCode) (declared : Nat) : StateM Bytes StatusReply := do
  let inputFrequency ← word 3
  let input1 ← word 3
  let outputFrequency ← word 3
  let output1 ← word 3
  let load1 ← word 2
  let bypassFrequency ← word 3
  let bypass1 ← word 3
  let batteryVoltage ← word 4
  let charge ← word 2
  let runtime ← word 3
  let temperature ← word 2
  let input2 ← word? (withInput declared) 3
  let input3 ← word? (withInput declared) 3
  let output2 ← word? (withOutput declared) 3
  let load2 ← word? (withOutput declared) 2
  let bypass2 ← word? (withOutput declared) 3
  let output3 ← word? (withOutput declared) 3
  let load3 ← word? (withOutput declared) 2
  let bypass3 ← word? (withOutput declared) 3
  return {
    code
    inputFrequency
    inputVoltage := ⟨input1, input2, input3⟩
    outputFrequency := outputFrequencyOf code outputFrequency
    outputVoltage := ⟨output1, output2, output3⟩
    load := ⟨load1, load2, load3⟩
    bypassFrequency
    bypassVoltage := ⟨bypass1, bypass2, bypass3⟩
    batteryVoltage
    charge
    runtime := runtimeOf runtime
    temperature }

def ofFrame (declared : Nat) (frame : Bytes) : Except Fault StatusReply :=
  if h : needed declared ≤ frame.length then
    have : 48 ≤ frame.length := by
      refine Nat.le_trans ?_ h
      unfold needed
      split
      · decide
      · split <;> decide
    let code := ⟨frame[7], frame[8], frame[9], frame[10], frame[11]⟩
    .ok (measurements code declared (frame.drop 12)).1
  else .error (.insufficient (needed declared) frame.length)

def apply (reply : StatusReply) (s : Snapshot) : Snapshot :=
  { s with
    status := reply.code
    boost := testBit reply.code.bytes 9
    buck := testBit reply.code.bytes 8
    locked := testBit reply.code.bytes 2
    inputFrequency := reply.inputFrequency
    inputVoltage := reply.inputVoltage
    outputFrequency := reply.outputFrequency
    outputVoltage := reply.outputVoltage
    load := reply.load
    bypassFrequency := reply.bypassFrequency
    bypassVoltage := reply.bypassVoltage
    batteryVoltage := reply.batteryVoltage
    charge := reply.charge
    runtime := reply.runtime
    temperature := reply.temperature }

end StatusReply

/-- The reply to RE: currents and powers of the three output phases. -/
structure ExtendedReply where
  outputCurrent : PerPhase UInt16
  realPower : PerPhase UInt32
  power : PerPhase UInt32
  deriving DecidableEq

namespace ExtendedReply

def needed : Nat := 70

/-- The first 16 payload characters are not used. -/
def dataOffset : Nat := 23

def payload : StateM Bytes ExtendedReply := do
  let current1 ← word 4
  let current2 ← word 4
  let current3 ← word 4
  let real1 ← long 5
  let real2 ← long 5
  let real3 ← long 5
  let power1 ← long 5
  let power2 ← long 5
  let power3 ← long 5
  return {
    outputCurrent := ⟨current1, current2, current3⟩
    realPower := ⟨real1, real2, real3⟩
    power := ⟨power1, power2, power3⟩ }

def ofFrame (frame : Bytes) : Except Fault ExtendedReply :=
  if needed ≤ frame.length then .ok (payload (frame.drop dataOffset)).1
  else .error (.insufficient needed frame.length)

/-- This reply has no input currents, so they are marked unknown. -/
def apply (reply : ExtendedReply) (s : Snapshot) : Snapshot :=
  { s with
    inputCurrent := .all unknownWord
    outputCurrent := reply.outputCurrent
    realPower := reply.realPower
    power := reply.power }

end ExtendedReply

/-- The reply to RC: the table of alarm and status codes. -/
structure CodesReply where
  table : Bytes
  deriving DecidableEq

namespace CodesReply

/-- Entries of the table, each a pair of characters. -/
def pairs : Nat := 22

def needed : Nat := 56

/-- Characters are taken two by two. Neither is masked, so a stray one spills over. -/
def unpack : Bytes → Bytes
  | high :: low :: rest =>
    (((high - Nibble.zero) <<< 4) ||| (low - Nibble.zero)) :: unpack rest
  | _ => []

def ofFrame (frame : Bytes) : Except Fault CodesReply :=
  if needed ≤ frame.length then .ok ⟨unpack (slice frame Wire.payloadOffset (pairs * 2))⟩
  else .error (.insufficient needed frame.length)

def apply (reply : CodesReply) (s : Snapshot) : Snapshot := { s with alarmTable := reply.table }

end CodesReply

end UpsMonitor
