import UpsMonitor.Report
import UpsMonitor.Usb.Bus

/-!
# The bench

A device whose answers are laid out beforehand, to run a monitor without a unit.
-/

namespace UpsMonitor

/-- Queues are used up from the front. A failure that is set stays until it is taken away. -/
structure Bench where
  attached : Identity :=
    { vendor := 0x04B4, product := 0x5500, serial := some "UPS0001", bus := 4 }
  plugged : Bool := true
  reads : List (Except Fault Bytes) := []
  writes : List (Except Fault Unit) := []
  openFailures : List Fault := []
  controlFailure : Option Fault := none
  clearHaltFailure : Option Fault := none
  resetFailure : Option Fault := none

namespace Bench

/-- The report of a device with nothing to say. -/
def idleReport : Bytes := [0x30, 0, 0, 0, 0, 0, 0, 0]

/-- Puts the reports of a frame behind what is to be read. -/
def queueReply (bench : Bench) (frame : Bytes) : Bench :=
  { bench with reads := bench.reads ++ (Report.ofBytes frame).map .ok }

def queueRead (bench : Bench) (outcome : Except Fault Bytes) : Bench :=
  { bench with reads := bench.reads ++ [outcome] }

def queueIdle (bench : Bench) (count : Nat) : Bench :=
  { bench with reads := bench.reads ++ List.replicate count (.ok idleReport) }

def queueWrite (bench : Bench) (outcome : Except Fault Unit) : Bench :=
  { bench with writes := bench.writes ++ [outcome] }

def queueOpenFailure (bench : Bench) (fault : Fault) : Bench :=
  { bench with openFailures := bench.openFailures ++ [fault] }

/-- The front of a queue, or else what an empty queue stands for, and the rest. -/
def next {α : Type} (queue : List α) (otherwise : α) : α × List α :=
  (queue.headD otherwise, queue.tail)

/-- Success, unless a failure is set. -/
def outcomeOf (failure : Option Fault) : Except Fault Unit :=
  match failure with
  | some fault => .error fault
  | none => .ok ()

def opening (bench : Bench) (matcher : Matcher) : Except Fault Identity × Bench :=
  match bench.openFailures with
  | fault :: rest => (.error fault, { bench with openFailures := rest })
  | [] =>
    if bench.plugged && matcher.accepts bench.attached then (.ok bench.attached, bench)
    else (.error (.deviceNotFound "no matching device"), bench)

def answer : (call : Call) → Bench → Except Fault call.Answer × Bench
  | .opening matcher, bench => bench.opening matcher
  | .control _ _ _ _, bench => (outcomeOf bench.controlFailure, bench)
  | .write _ _ _, bench =>
    let (outcome, writes) := next bench.writes (.ok ())
    (outcome, { bench with writes })
  | .read _ _ _, bench =>
    let (outcome, reads) := next bench.reads (.ok idleReport)
    (outcome, { bench with reads })
  | .clearHalt _, bench => (outcomeOf bench.clearHaltFailure, bench)
  | .reset, bench => (outcomeOf bench.resetFailure, bench)

instance : Device Bench := ⟨answer⟩

end Bench

end UpsMonitor
