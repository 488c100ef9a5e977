import UpsMonitor.Frame.Assembler
import UpsMonitor.Report
import UpsMonitor.Usb.Bus

/-!
# Transport

Frames across the report boundary: a command goes out in reports, and reports are read into an
assembler until a frame is complete or the budget is spent. Nothing is tried twice.
-/

namespace UpsMonitor

namespace Transport

/-- Times are in microseconds. -/
structure Settings where
  timeout : Nat := 1000000
  /-- The pause after every outgoing report. -/
  writeDelay : Nat := Report.pause 200
  /-- The pause between incoming reports. -/
  readInterval : Nat := 10000
  /-- The reports that are read before a reply is given up. -/
  maxReports : Nat := 300
  deriving DecidableEq, Inhabited

def outEndpoint : UInt8 := 0x02

def inEndpoint : UInt8 := 0x81

variable {σ : Type} [Device σ]

/-- Writes reports in order, up to the first that fails. -/
def sendReports (settings : Settings) : List Bytes → Bus σ → Except Fault Unit × Bus σ
  | [], bus => (.ok (), bus)
  | report :: rest, bus =>
    match bus.call (.write outEndpoint report settings.timeout) with
    | (.ok _, bus) => sendReports settings rest (bus.pause settings.writeDelay)
    | (.error fault, bus) => (.error fault, bus)

/-- An empty frame is refused before anything is written. -/
def send (settings : Settings) (bytes : Bytes) (bus : Bus σ) : Except Fault Unit × Bus σ :=
  if bytes = [] then (.error (.usb .invalidInput "empty frame"), bus)
  else sendReports settings (Report.ofBytes bytes) bus

/-- Reads at most `budget` reports. A buffer that fills up without an end spends the whole budget at
once. -/
def receiveWithin (settings : Settings) :
    Nat → Assembler → Bus σ → Except Fault Frame × Assembler × Bus σ
  | 0, asm, bus => (.error (.timeout settings.maxReports), asm, bus)
  | budget + 1, asm, bus =>
    match bus.call (.read inEndpoint Report.size settings.timeout) with
    | (.error fault, bus) => (.error fault, asm, bus)
    | (.ok report, bus) =>
      let asm := asm.feedAll (Report.payload report)
      match asm.frame? with
      | some frame => (.ok frame, asm.reset, bus)
      | none =>
        if asm.isFull then (.error (.timeout settings.maxReports), asm, bus)
        else receiveWithin settings budget asm (bus.pause settings.readInterval)

def receive (settings : Settings) (asm : Assembler) (bus : Bus σ) :
    Except Fault Frame × Assembler × Bus σ :=
  receiveWithin settings settings.maxReports asm bus

end Transport

end UpsMonitor
