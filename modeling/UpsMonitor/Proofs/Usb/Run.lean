import UpsMonitor.Usb.Link

/-!
# Runs of a link

What may be done with a link, and in which states it can be when that is done over and over.
-/

namespace UpsMonitor.Link

inductive Operation
  | ensureOpen
  | execute (command : Command)
  | close
  | takeReopened
  deriving DecidableEq

variable {σ : Type}

/-- Whatever may happen on the bus while nobody looks: units are plugged in, pulled out or put in
the place of others. -/
def withDevice (link : Link σ) (device : σ) : Link σ :=
  { link with bus := { link.bus with device } }

variable [Device σ]

/-- The link behind an operation, whatever came of it. -/
def Operation.perform (operation : Operation) (link : Link σ) : Link σ :=
  match operation with
  | ensureOpen => link.ensureOpen.2
  | execute command => (link.execute command).2
  | close => link.close
  | takeReopened => link.takeReopened.2

/-- Operations in any order, whatever came of each, and between them anything may happen to the
device. -/
inductive Run (first : Link σ) : Link σ → Prop
  | start : Run first first
  | step {link : Link σ} (run : Run first link) (operation : Operation) :
      Run first (operation.perform link)
  | meddled {link : Link σ} (run : Run first link) (device : σ) :
      Run first (link.withDevice device)

end UpsMonitor.Link
