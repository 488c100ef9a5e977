import UpsMonitor.Reply

/-!
# What a reply changes

Which replies are read, and how one that is bears on the snapshot. Main statements:

* `decode_iff_needed`: a frame that is long enough for its reply is read, whatever it holds;
* `status_of_decode`: only replies that carry the status change it.
-/

namespace UpsMonitor

theorem map_eq_ok_iff {α β : Type} {read : Except Fault α} {f : α → β} {value : β} :
    read.map f = .ok value ↔ ∃ got, read = .ok got ∧ f got = value := by
  cases read with
  | error fault => simp [Except.map]
  | ok got => simp [Except.map]

namespace Sentry

variable {level : Extension} {frame : Bytes}

theorem decode_eq_ok (long : level.replyLength ≤ frame.length) (s : Snapshot) :
    Reply.decode (.telemetry level) frame s = .ok (apply level frame long s) :=
  dif_pos long

theorem decode_eq_error (short : ¬ level.replyLength ≤ frame.length) (s : Snapshot) :
    Reply.decode (.telemetry level) frame s =
      .error (.insufficient level.replyLength frame.length) :=
  dif_neg short

end Sentry

namespace Reply

/-- How long a frame has to be for its reply to be read. -/
def needed : Reply → Nat
  | identity => IdentityReply.needed
  | nominal => NominalReply.needed
  | status declared => StatusReply.needed declared
  | extended => ExtendedReply.needed
  | statusCodes => CodesReply.needed
  | telemetry level => level.replyLength

theorem decode_iff_needed (kind : Reply) (frame : Bytes) (s : Snapshot) :
    (∃ after, kind.decode frame s = .ok after) ↔ kind.needed ≤ frame.length := by
  cases kind with
  | identity | nominal | status | extended | statusCodes =>
    simp only [decode, needed, map_eq_ok_iff, IdentityReply.ofFrame, NominalReply.ofFrame,
      StatusReply.ofFrame, ExtendedReply.ofFrame, CodesReply.ofFrame]
    split
    · next long => simp [long]
    · next short => simp [short]
  | telemetry level =>
    simp only [decode, needed, Sentry.decode]
    split
    · next long => simp [long]
    · next short => simp [short]

/-- Whether a reply carries the status of the unit. -/
def carriesStatus : Reply → Bool
  | status _ | telemetry _ => true
  | identity | nominal | extended | statusCodes => false

theorem status_of_decode {kind : Reply} {bytes : Bytes} {s after : Snapshot}
    (silent : kind.carriesStatus = false) (read : kind.decode bytes s = .ok after) :
    after.status = s.status := by
  cases kind with
  | status | telemetry => cases silent
  | identity | nominal | extended | statusCodes =>
    obtain ⟨reply, -, rfl⟩ := map_eq_ok_iff.mp read
    rfl

end Reply

end UpsMonitor
