import UpsMonitor.Monitor

/-!
# Control

Instant commands and the shutdown sequence. A command that the unit does not have, or that its power
state rules out, never reaches the link.
-/

namespace UpsMonitor.Monitor

variable {σ : Type} [Device σ]

/-- Sends one frame of a command. A SENTRY unit may carry out a command without a word. -/
def sendFrame (m : Monitor σ) (command : Command) : Except Fault CommandStatus × Monitor σ :=
  match m.carryOut command with
  | (.ok reply, m) => (.ok (if reply.clean then .handled else .failed), m)
  | (.error (.fatal detail), m) => (.error (.fatal detail), m)
  | (.error (.timeout _), m) => (.ok (if command.family = .sentry then .handled else .failed), m)
  | (.error _, m) => (.ok .failed, m)

/-- Sends frames in order, up to the first that is not accepted. -/
def sendFrames : List Command → Monitor σ → Except Fault CommandStatus × Monitor σ
  | [], m => (.ok .handled, m)
  | command :: rest, m =>
    match m.sendFrame command with
    | (.ok .handled, m) => sendFrames rest m
    | (outcome, m) => (outcome, m)

/-- Whether a command may be sent to the unit as it was last seen. -/
def available (m : Monitor σ) (command : InstantCommand) : Bool :=
  command.supportedBy m.dialect.family && command.allowed m.snapshot.flags.onBattery

def run (m : Monitor σ) (command : InstantCommand) : Except Fault CommandStatus × Monitor σ :=
  if m.available command then
    sendFrames (command.frames m.dialect.family m.dialect.mode m.settings.delays) m
  else (.ok .unknown, m)

/-- Runs the command of a name. -/
def instant (m : Monitor σ) (name : String) : Except Fault CommandStatus × Monitor σ :=
  match InstantCommand.ofName? name with
  | some command => m.run command
  | none => (.ok .unknown, m)

/-- Runs commands in order, and tells whether all of them were handled. -/
def runAll : List InstantCommand → Monitor σ → Except Fault Bool × Monitor σ
  | [], m => (.ok true, m)
  | command :: rest, m =>
    match m.run command with
    | (.ok .handled, m) => runAll rest m
    | (.ok _, m) => (.ok false, m)
    | (.error fault, m) => (.error fault, m)

/-- A shutdown first cancels whatever is pending. -/
def shutdownSequence : List InstantCommand := [.shutdownStop, .shutdownReturn]

/-- Tries the whole sequence anew until it goes through or the attempts are used up. -/
def shutdownWithin : Nat → Monitor σ → Except Fault Unit × Monitor σ
  | 0, m => (.error (.protocol "shutdown failed"), m)
  | attempts + 1, m =>
    match runAll shutdownSequence m with
    | (.ok true, m) => (.ok (), m)
    | (.ok false, m) => shutdownWithin attempts m
    | (.error fault, m) => (.error fault, m)

def shutdown (m : Monitor σ) : Except Fault Unit × Monitor σ :=
  shutdownWithin m.settings.shutdownRetries m

end UpsMonitor.Monitor
