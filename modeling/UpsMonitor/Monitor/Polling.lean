import UpsMonitor.Monitor
import UpsMonitor.Monitor.Publishing

/-!
# Establishing and polling

How the monitor gets to know its unit and how it follows it from then on. Only fatal faults end a
poll with an error; any other failure is counted, and nothing is published for it.
-/

namespace UpsMonitor.Monitor

variable {σ : Type} [Device σ]

/-- Asks for the ratings. A SENTRY unit gives them with its telemetry. -/
def readNominal (m : Monitor σ) : Except Fault Frame × Monitor σ :=
  match m.dialect.family with
  | .gpser => m.ask (GpserCommand.readNominal.encode m.dialect.mode) .nominal
  | .sentry =>
    m.ask (SentryCommand.request m.dialect.extension).encode (.telemetry m.dialect.extension)

/-- Asks for the table of status codes. Whether the family and the unit have one is the answer. -/
def readStatusCodes (m : Monitor σ) : Except Fault Bool × Monitor σ :=
  match m.dialect.family with
  | .sentry => (.ok false, m)
  | .gpser =>
    match m.ask (GpserCommand.readStatusCodes.encode m.dialect.mode) .statusCodes with
    | (.ok _, m) => (.ok true, m)
    | (.error .nak, m) => (.ok false, m)
    | (.error fault, m) => (.error fault, m)

/-- Makes sure of a handle. Its being opened anew is no news here. -/
def openFirst (m : Monitor σ) : Except Fault Unit × Monitor σ :=
  match m.link.ensureOpen with
  | (.error fault, link) => (.error fault, { m with link })
  | (.ok _, link) => (.ok (), { m with link := link.takeReopened.2 })

/-- Asks for the ratings and publishes them. Doing without them is fine, but a fatal fault is
not. -/
def publishNominal (m : Monitor σ) : Except Fault Unit × Monitor σ :=
  match m.readNominal with
  | (.ok _, m) => (.ok (), m.post (Publishing.nominal m.snapshot))
  | (.error (.fatal detail), m) => (.error (.fatal detail), m)
  | (.error _, m) => (.ok (), m)

/-- Asks for the status codes. Doing without them is fine, but a fatal fault is not. -/
def tryStatusCodes (m : Monitor σ) : Except Fault Unit × Monitor σ :=
  match m.readStatusCodes with
  | (.error (.fatal detail), m) => (.error (.fatal detail), m)
  | (_, m) => (.ok (), m)

/-- Identifies the unit and publishes what does not change: who it is, what it is rated for and
which commands it takes. -/
def establish (m : Monitor σ) : Except Fault Unit × Monitor σ :=
  match m.openFirst with
  | (.error fault, m) => (.error fault, m)
  | (.ok _, m) =>
    match m.detect with
    | (.error fault, m) => (.error fault, m)
    | (.ok _, m) =>
      let m := m.post (Publishing.identity m.dialect.layout m.settings.delays m.snapshot)
      match m.publishNominal with
      | (.error fault, m) => (.error fault, m)
      | (.ok _, m) =>
        match m.tryStatusCodes with
        | (.error fault, m) => (.error fault, m)
        | (.ok _, m) => (.ok (), m.post (Publishing.commands m.dialect.family))

/-- Asks for the extended status, and tells whether it came. Only a fatal fault gets through. -/
def readExtended (m : Monitor σ) : Except Fault Bool × Monitor σ :=
  match m.ask (GpserCommand.readExtended.encode m.dialect.mode) .extended with
  | (.ok _, m) => (.ok true, m)
  | (.error (.fatal detail), m) => (.error (.fatal detail), m)
  | (.error _, m) => (.ok false, m)

/-- Identifies the unit unless that was done since its handle was opened. -/
def ensureIdentified (m : Monitor σ) : Except Fault Unit × Monitor σ :=
  match m.link.ensureOpen with
  | (.error fault, link) => (.error fault, { m with link })
  | (.ok _, link) =>
    let (reopened, link) := link.takeReopened
    let m := { m with link, identified := m.identified && !reopened }
    if m.identified then (.ok (), m) else m.identify

/-- Asks for the status, and tells whether powers and currents came with it. -/
def readStatus (m : Monitor σ) : Except Fault Bool × Monitor σ :=
  match m.dialect.family with
  | .gpser =>
    match m.ask (GpserCommand.readStatus.encode m.dialect.mode)
        (.status m.dialect.layout.statusLength) with
    | (.error fault, m) => (.error fault, m)
    | (.ok _, m) => m.readExtended
  | .sentry =>
    match m.ask (SentryCommand.request m.dialect.extension).encode
        (.telemetry m.dialect.extension) with
    | (.error fault, m) => (.error fault, m)
    | (.ok _, m) => (.ok true, m)

def refresh (m : Monitor σ) : Except Fault Bool × Monitor σ :=
  match m.ensureIdentified with
  | (.error fault, m) => (.error fault, m)
  | (.ok _, m) => m.readStatus

/-- Asks for the status and publishes it. The answer tells whether fresh data was published. Data
that could not be refreshed too often in a row is marked stale. -/
def poll (m : Monitor σ) : Except Fault Bool × Monitor σ :=
  match m.refresh with
  | (.ok extended, m) =>
    let m := { m with failures := m.failures.recordSuccess.2 }
    (.ok true, m.post (Publishing.status m.dialect.layout extended m.snapshot ++ [.ok]))
  | (.error (.fatal detail), m) => (.error (.fatal detail), m)
  | (.error _, m) =>
    let (event, failures) := m.failures.recordFailure
    let m := { m with failures }
    (.ok false, if event = .becameStale then m.post [.stale] else m)

end UpsMonitor.Monitor
