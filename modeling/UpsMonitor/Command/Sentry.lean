import UpsMonitor.Command
import UpsMonitor.Word

/-!
# SENTRY commands

A telemetry request is a single byte. Everything else is an opcode, a second opcode, a parameter
with its low byte first, and the sum of these four bytes.
-/

namespace UpsMonitor

/-- Shutdown delays are seconds, reboot delays are minutes. -/
inductive SentryCommand
  | identify
  | request (level : Extension)
  | shutdown (delay : UInt16)
  | cancel
  | setReboot (delay : UInt16)
  | reboot (delay : UInt16)
  | batteryTest
  deriving DecidableEq

namespace SentryCommand

def name : SentryCommand → String
  | identify => "identify"
  | request _ => "request"
  | shutdown _ => "shutdown"
  | cancel => "cancel"
  | setReboot _ => "set-reboot"
  | reboot _ => "reboot"
  | batteryTest => "battery-test"

/-- A five-byte frame. The sum of its first four bytes closes it. -/
def sealed (opcode sub : UInt8) (parameter : UInt16) : Bytes :=
  let body := [opcode, sub] ++ Word.littleEndian parameter
  body ++ [body.foldl (· + ·) 0]

def bytes : SentryCommand → Bytes
  | identify => [Extension.only192.opcode]
  | request .ext176 => sealed Wire.controlOpcode 103 1
  | request level => [level.opcode]
  | shutdown delay => sealed Wire.controlOpcode 6 delay
  | cancel => sealed Wire.controlOpcode 5 0
  | setReboot delay => sealed Wire.controlOpcode 2 delay
  | reboot delay => sealed Wire.controlOpcode 1 delay
  | batteryTest => sealed Wire.controlOpcode 4 0

def encode (command : SentryCommand) : Command where
  name := command.name
  family := .sentry
  mode := .sum
  bytes := command.bytes

/-- Whether a whole telemetry frame is expected in reply. -/
def expectsTelemetry : SentryCommand → Bool
  | identify | request _ => true
  | _ => false

end SentryCommand

end UpsMonitor
