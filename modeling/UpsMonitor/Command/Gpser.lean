import UpsMonitor.Checksum
import UpsMonitor.Command

/-!
# GPSER commands

Header, two-letter opcode, length of the parameters in two decimal digits, parameters, checksum, end
byte. All of it but the two frame marks is printable.
-/

namespace UpsMonitor

/-- Shutdown delays are seconds, restart delays are minutes. -/
inductive GpserCommand
  | identify
  | readNominal
  | readStatus
  | readExtended
  | readStatusCodes
  | shutdown (delay : UInt16)
  | restart (delay : UInt16)
  | cancelShutdown
  | panelTest
  | batteryTest
  deriving DecidableEq

namespace GpserCommand

def opcode : GpserCommand → Bytes
  | identify => [0x47, 0x49]
  | readNominal => [0x47, 0x4E]
  | readStatus => [0x52, 0x53]
  | readExtended => [0x52, 0x45]
  | readStatusCodes => [0x52, 0x43]
  | shutdown _ => [0x43, 0x53]
  | restart _ => [0x43, 0x52]
  | cancelShutdown => [0x43, 0x44]
  | panelTest => [0x54, 0x50]
  | batteryTest => [0x54, 0x42]

def name : GpserCommand → String
  | identify => "GI"
  | readNominal => "GN"
  | readStatus => "RS"
  | readExtended => "RE"
  | readStatusCodes => "RC"
  | shutdown _ => "CS"
  | restart _ => "CR"
  | cancelShutdown => "CD"
  | panelTest => "TP"
  | batteryTest => "TB"

/-- A restart carries two delays, of which the first is always zero. A battery test carries the text
005. -/
def parameters : GpserCommand → Bytes
  | shutdown delay => Nibble.encodeWord delay
  | restart delay => Nibble.encodeWord 0 ++ Nibble.encodeWord delay
  | batteryTest => [0x30, 0x30, 0x35]
  | _ => []

/-- The declared length of the reply. -/
def replyLength (command : GpserCommand) (layout : PhaseLayout) : Nat :=
  match command with
  | identify => 68
  | readNominal => 34
  | readStatus => layout.statusLength
  | readExtended => 70
  | readStatusCodes => 56
  | _ => 12

/-- Identification always runs in sum mode: the mode of the unit is known only from its reply. -/
def effectiveMode (command : GpserCommand) (mode : CheckMode) : CheckMode :=
  match command with
  | identify => .sum
  | _ => mode

/-- A count below 100 in two decimal digits. -/
def twoDigits (count : Nat) : Bytes :=
  [0x30 + UInt8.ofNat (count / 10), 0x30 + UInt8.ofNat (count % 10)]

/-- All that the checksum of a command runs over, and the start byte. -/
def content (command : GpserCommand) : Bytes :=
  Wire.commandHeader ++ command.opcode ++ twoDigits command.parameters.length ++ command.parameters

def encode (command : GpserCommand) (mode : CheckMode) : Command where
  name := command.name
  family := .gpser
  mode := command.effectiveMode mode
  bytes := Checksum.append .gpser (command.effectiveMode mode) command.content ++ [Wire.etx]

end GpserCommand

end UpsMonitor
