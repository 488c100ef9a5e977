import UpsMonitor.Monitor.Control
import UpsMonitor.Monitor.Polling

/-!
# Runs of a monitor

What may be done with a monitor, and in which states it can be when that is done over and over.
-/

namespace UpsMonitor

inductive Operation
  | establish
  | poll
  | readStatusCodes
  | instant (name : String)
  | shutdown
  deriving DecidableEq

/-- Whether an operation has the unit do something, rather than asking it for data. -/
def Operation.controls : Operation → Bool
  | instant _ | shutdown => true
  | establish | poll | readStatusCodes => false

variable {σ : Type}

/-- Whatever may happen to the device while nobody looks. -/
def Monitor.withDevice (m : Monitor σ) (device : σ) : Monitor σ :=
  { m with link := { m.link with bus := { m.link.bus with device } } }

variable [Device σ]

/-- The monitor behind an operation, whatever came of it. -/
def Operation.perform (operation : Operation) (m : Monitor σ) : Monitor σ :=
  match operation with
  | establish => m.establish.2
  | poll => m.poll.2
  | readStatusCodes => m.readStatusCodes.2
  | instant name => (m.instant name).2
  | shutdown => m.shutdown.2

/-- An operation and the monitor it was performed on. -/
structure Step (σ : Type) where
  before : Monitor σ
  operation : Operation

def Step.after (step : Step σ) : Monitor σ := step.operation.perform step.before

/-- Operations in any order, whatever came of each, and between them anything may happen to the
device. The steps are listed with the latest first. -/
inductive Run (first : Monitor σ) : List (Step σ) → Monitor σ → Prop
  | start : Run first [] first
  | step {steps : List (Step σ)} {m : Monitor σ} (run : Run first steps m)
      (operation : Operation) : Run first (⟨m, operation⟩ :: steps) (operation.perform m)
  | meddled {steps : List (Step σ)} {m : Monitor σ} (run : Run first steps m) (device : σ) :
      Run first steps (m.withDevice device)

end UpsMonitor
