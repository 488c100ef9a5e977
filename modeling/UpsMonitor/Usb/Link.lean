import UpsMonitor.Command
import UpsMonitor.Usb.Transport

/-!
# The link

Owns the handle of the device and the assembler, runs one exchange at a time and recovers from the
failures of an exchange.
-/

namespace UpsMonitor

/-- The life of a handle. -/
inductive Connection
  /-- Never opened, or given up. -/
  | closed
  | opened
  /-- Lost after a failure, to be opened anew when next needed. -/
  | reconnecting
  deriving DecidableEq

structure Link (σ : Type) where
  bus : Bus σ
  matcher : Matcher
  settings : Transport.Settings := {}
  connection : Connection := .closed
  assembler : Assembler := .empty .gpser .sum
  /-- Set when a lost handle was opened anew, until someone takes note. -/
  reopened : Bool := false

namespace Link

variable {σ : Type}

def isOpen (link : Link σ) : Bool := link.connection = .opened

/-- Whether the handle was opened anew since this was last asked. -/
def takeReopened (link : Link σ) : Bool × Link σ :=
  (link.reopened, { link with reopened := false })

def close (link : Link σ) : Link σ := { link with connection := .closed }

/-- Drops the handle, to be opened anew when next needed. -/
def markLost (link : Link σ) : Link σ := { link with connection := .reconnecting }

/-- The configuration that the bridge gets once after every open. -/
def featureReport : Bytes := [0xB0, 0x04, 0x00, 0x00, 0x03]

variable [Device σ]

/-- Sends the bridge configuration. A failure to do so is ignored. -/
def configureBridge (link : Link σ) : Link σ :=
  { link with
    bus := (link.bus.call (.control 0x09 0x0300 featureReport link.settings.timeout)).2 }

/-- Opens the device unless a handle is held. The matcher is narrowed to the device that was opened;
after a failure it is as before. -/
def ensureOpen (link : Link σ) : Except Fault Unit × Link σ :=
  if link.isOpen then (.ok (), link)
  else
    match link.bus.call (.opening link.matcher) with
    | (.error fault, bus) => (.error fault, { link with bus })
    | (.ok device, bus) =>
      let link := { link with bus, matcher := link.matcher.pin device.serial device.bus }
      let again := link.reopened || link.connection = .reconnecting
      (.ok (), { link.configureBridge with connection := .opened, reopened := again })

/-- Sends a command and reads its reply into the assembler, configured for this command. -/
def exchange (link : Link σ) (command : Command) : Except Fault Frame × Link σ :=
  let asm := link.assembler.configure command.family command.mode
  match Transport.send link.settings command.bytes link.bus with
  | (.error fault, bus) => (.error fault, { link with assembler := asm, bus })
  | (.ok _, bus) =>
    let (outcome, assembler, bus) := Transport.receive link.settings asm bus
    (outcome, { link with assembler, bus })

/-- Resets the device and drops the handle, whether or not the reset succeeds. -/
def resetAndDrop (link : Link σ) : Link σ :=
  { link with bus := (link.bus.call .reset).2 }.markLost

/-- Runs exchanges until one succeeds or its failure is final. Only a stall whose halt could be
cleared is tried again, at most `retries` times. -/
def attempt (command : Command) : Nat → Link σ → Except Fault Frame × Link σ
  | retries, link =>
    match link.exchange command with
    | (.ok frame, link) => (.ok frame, link)
    | (.error fault, link) =>
      match fault.recovery with
      | .fatal => (.error (.fatal fault.message), link.close)
      | .clearAndRetry =>
        match link.bus.call (.clearHalt Transport.inEndpoint) with
        | (.error _, bus) => (.error fault, { link with bus }.resetAndDrop)
        | (.ok _, bus) =>
          match retries with
          | 0 => (.error fault, { link with bus })
          | retries + 1 => attempt command retries { link with bus }
      | .resetAndReconnect => (.error fault, link.resetAndDrop)
      | .reconnect => (.error fault, link.markLost)
      | .softFail => (.error fault, link)

/-- Sends a command and gives the reply with its flags. A stall is retried once. -/
def execute (link : Link σ) (command : Command) : Except Fault Frame × Link σ :=
  match link.ensureOpen with
  | (.error fault, link) => (.error fault, link)
  | (.ok _, link) => attempt command 1 link

end Link

end UpsMonitor
