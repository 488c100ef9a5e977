import UpsMonitor.Fault
import UpsMonitor.Usb.Matcher

/-!
# The bus

Everything that is asked of a device is one of a few calls. A device answers a call or fails it and
may change in doing so; the bus keeps a log of the calls and of what came of them.
-/

namespace UpsMonitor

/-- Times are in microseconds. -/
inductive Call
  /-- Opens and claims a device that the matcher accepts. -/
  | opening (matcher : Matcher)
  | control (request : UInt8) (value : UInt16) (payload : Bytes) (timeout : Nat)
  | write (endpoint : UInt8) (report : Bytes) (timeout : Nat)
  | read (endpoint : UInt8) (length : Nat) (timeout : Nat)
  | clearHalt (endpoint : UInt8)
  | reset
  deriving DecidableEq

/-- What a call gives when it succeeds. -/
abbrev Call.Answer : Call → Type
  | opening _ => Identity
  | read _ _ _ => Bytes
  | control _ _ _ _ | write _ _ _ | clearHalt _ | reset => Unit

/-- Something that answers calls. Its state may be anything. -/
class Device (σ : Type) where
  answer : (call : Call) → σ → Except Fault call.Answer × σ

/-- An entry of the log. -/
inductive Event
  | called (call : Call) (outcome : Except Fault call.Answer)
  | paused (micros : Nat)

/-- A call together with what came of it. -/
abbrev Done := (call : Call) × Except Fault call.Answer

def Event.done? : Event → Option Done
  | called call outcome => some ⟨call, outcome⟩
  | paused _ => none

/-- A device and the log of what was done to it, the latest entry first. -/
structure Bus (σ : Type) where
  device : σ
  log : List Event := []

namespace Bus

variable {σ : Type}

def call [Device σ] (bus : Bus σ) (call : Call) : Except Fault call.Answer × Bus σ :=
  let (outcome, device) := Device.answer call bus.device
  (outcome, { device, log := .called call outcome :: bus.log })

def pause (bus : Bus σ) (micros : Nat) : Bus σ := { bus with log := .paused micros :: bus.log }

/-- The calls of the log and what came of them, the latest first. -/
def calls (bus : Bus σ) : List Done := bus.log.filterMap Event.done?

@[simp] theorem calls_call [Device σ] (bus : Bus σ) (call : Call) :
    (bus.call call).2.calls = ⟨call, (bus.call call).1⟩ :: bus.calls := rfl

@[simp] theorem calls_pause (bus : Bus σ) (micros : Nat) : (bus.pause micros).calls = bus.calls :=
  rfl

end Bus

end UpsMonitor
