import UpsMonitor.Command.Instant
import UpsMonitor.FailureCounter
import UpsMonitor.Reply
import UpsMonitor.Store
import UpsMonitor.Usb.Link

/-!
# The monitor

Talks to one unit over a link, keeps what it learns in a snapshot and publishes it as notices. Here
is its state, and how it asks for data and identifies the unit: nothing but a clean reply ever
reaches the snapshot. What it had carried out and what it published stays on record.
-/

namespace UpsMonitor

/-- Which protocol family to talk. -/
inductive FamilyChoice
  /-- Whichever the unit answers to, SENTRY first. -/
  | auto
  | gpser
  | sentry
  deriving DecidableEq, Inhabited

def FamilyChoice.initial : FamilyChoice → Family
  | sentry => .sentry
  | auto | gpser => .gpser

/-- How the unit talks, as far as that has been negotiated. -/
structure Dialect where
  family : Family
  mode : CheckMode := .sum
  layout : PhaseLayout := {}
  extension : Extension := .only192
  deriving DecidableEq

structure Monitor.Settings where
  family : FamilyChoice := .gpser
  delays : Delays := {}
  /-- Failed polls in a row after which the published data is stale. -/
  countlost : UInt32 := FailureCounter.defaultLimit
  shutdownRetries : Nat := 3
  deriving DecidableEq, Inhabited

/-- A command that was carried out, what came of it, and the link behind it. -/
structure Talk (σ : Type) where
  command : Command
  outcome : Except Fault Frame
  link : Link σ

structure Monitor (σ : Type) where
  link : Link σ
  settings : Monitor.Settings
  dialect : Dialect
  snapshot : Snapshot := {}
  failures : FailureCounter
  /-- Whether the unit behind the current handle was identified. -/
  identified : Bool := false
  store : Store := {}
  /-- Everything published so far, the latest notice first. -/
  notices : List Notice := []
  /-- Every command carried out so far, the latest first. -/
  talks : List (Talk σ) := []

namespace Monitor

variable {σ : Type}

def ofLink (link : Link σ) (settings : Settings) : Monitor σ where
  link
  settings
  dialect := { family := settings.family.initial }
  failures := .ofLimit settings.countlost

/-- Publishes notices in order. -/
def post (m : Monitor σ) (notices : List Notice) : Monitor σ :=
  { m with store := m.store.applyAll notices, notices := notices.reverse ++ m.notices }

/-- A corrupted reply counts as corrupted even if it reads as a rejection. -/
def dataReply (frame : Frame) : Except Fault Frame :=
  if frame.badChecksum then .error .badChecksum
  else if frame.nak then .error .nak
  else .ok frame

variable [Device σ]

/-- Has the link carry out a command. -/
def carryOut (m : Monitor σ) (command : Command) : Except Fault Frame × Monitor σ :=
  let (outcome, link) := m.link.execute command
  (outcome, { m with link, talks := ⟨command, outcome, link⟩ :: m.talks })

/-- Sends a command and gives its reply, if that is clean. -/
def request (m : Monitor σ) (command : Command) : Except Fault Frame × Monitor σ :=
  match m.carryOut command with
  | (.ok frame, m) => (dataReply frame, m)
  | (.error fault, m) => (.error fault, m)

/-- Sends a command and reads its reply onto the snapshot. -/
def ask (m : Monitor σ) (command : Command) (kind : Reply) : Except Fault Frame × Monitor σ :=
  match m.request command with
  | (.error fault, m) => (.error fault, m)
  | (.ok frame, m) =>
    match kind.decode frame.bytes m.snapshot with
    | .error fault => (.error fault, m)
    | .ok snapshot => (.ok frame, { m with snapshot })

/-- Identifies a GPSER unit and takes over its mode and layout. -/
def identifyGpser (m : Monitor σ) : Except Fault Unit × Monitor σ :=
  match m.ask (GpserCommand.identify.encode .sum) .identity with
  | (.error fault, m) => (.error fault, m)
  | (.ok _, m) =>
    let dialect := { m.dialect with
      family := .gpser
      mode := .ofIdentity m.snapshot.modeByte
      layout := .ofIdentity m.snapshot.phasesByte }
    (.ok (), { m with dialect, identified := true })

/-- Identifies a SENTRY unit, which answers in the basic layout, and takes over its own layout. Its
family and mode are taken over as soon as the answer was read. -/
def identifySentry (m : Monitor σ) : Except Fault Unit × Monitor σ :=
  match m.ask SentryCommand.identify.encode (.telemetry .only192) with
  | (.error fault, m) => (.error fault, m)
  | (.ok frame, m) =>
    let m := { m with dialect := { m.dialect with family := .sentry, mode := .sum } }
    match Sentry.resolve frame.bytes with
    | .error fault => (.error fault, m)
    | .ok extension =>
      let dialect := { m.dialect with extension, layout := .ofIdentity m.snapshot.phasesByte }
      (.ok (), { m with dialect, identified := true })

/-- Identifies the unit in the family it was last seen to speak. -/
def identify (m : Monitor σ) : Except Fault Unit × Monitor σ :=
  match m.dialect.family with
  | .gpser => m.identifyGpser
  | .sentry => m.identifySentry

/-- Identifies the unit in the family that is configured, or finds out which it speaks. -/
def detect (m : Monitor σ) : Except Fault Unit × Monitor σ :=
  match m.settings.family with
  | .gpser => m.identifyGpser
  | .sentry => m.identifySentry
  | .auto =>
    match m.identifySentry with
    | (.ok _, m) => (.ok (), m)
    | (.error (.fatal detail), m) => (.error (.fatal detail), m)
    | (.error _, m) =>
      match m.identifyGpser with
      | (.ok _, m) => (.ok (), m)
      | (.error (.fatal detail), m) => (.error (.fatal detail), m)
      | (.error _, m) => (.error (.deviceNotFound "no GPSER or SENTRY reply"), m)

end Monitor

end UpsMonitor
