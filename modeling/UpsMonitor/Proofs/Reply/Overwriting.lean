import UpsMonitor.Proofs.Reply.Decoding

/-!
# What a telemetry reply overwrites

All that is known of a SENTRY unit comes from telemetry replies, and the first of them is read in the
basic layout whatever layout the later ones have. Main statements:

* `apply_eq`: a reply puts the same over every snapshot, and leaves what no telemetry reply carries;
* `apply_layout`: apart from six measurements, it puts the same in every layout;
* `readAll_eq`: a run of replies leaves what one of them leaves;
* `telemetry_overwrites`: so the last reply alone tells everything that telemetry can tell.
-/

namespace UpsMonitor

namespace Snapshot

/-- With what no telemetry reply carries taken from another snapshot. -/
def keeping (s kept : Snapshot) : Snapshot :=
  { s with
    alarmTable := kept.alarmTable
    serial := kept.serial
    nominalBatteryVoltage := kept.nominalBatteryVoltage
    batteryCount := kept.batteryCount
    nominalOutputVoltage := kept.nominalOutputVoltage
    nominalOutputFrequency := kept.nominalOutputFrequency
    boost := kept.boost
    buck := kept.buck
    locked := kept.locked
    power := kept.power
    realPower := kept.realPower }

/-- With the measurements that the layouts give in different ways taken from another snapshot. -/
def measuredAs (s other : Snapshot) : Snapshot :=
  { s with
    inputVoltage := other.inputVoltage
    inputCurrent := other.inputCurrent
    outputVoltage := other.outputVoltage
    outputCurrent := other.outputCurrent
    batteryVoltage := other.batteryVoltage
    bypassVoltage := other.bypassVoltage }

theorem keeping_self (s : Snapshot) : s.keeping s = s := rfl

theorem keeping_keeping (s before kept : Snapshot) :
    (s.keeping before).keeping kept = s.keeping kept := rfl

/-- What is kept of a snapshot that keeps it is what the earlier one has. -/
theorem keeping_kept (s between kept : Snapshot) :
    s.keeping (between.keeping kept) = s.keeping kept := rfl

end Snapshot

namespace Sentry

section
variable {level other : Extension} {frame : Bytes}

/-- **A reply puts the same over every snapshot,** and leaves what no telemetry reply carries. -/
theorem apply_eq (long : level.replyLength ≤ frame.length) (s : Snapshot) :
    apply level frame long s = (apply level frame long {}).keeping s := rfl

/-- **Apart from six measurements, it puts the same in every layout.** -/
theorem apply_layout (long : level.replyLength ≤ frame.length)
    (long' : other.replyLength ≤ frame.length) (s t : Snapshot) :
    apply other frame long' t =
      ((apply level frame long s).measuredAs (apply other frame long' t)).keeping t := rfl

end

/-- Reads one reply onto a snapshot. One that is too short leaves it. -/
def readOne (s : Snapshot) (reply : Extension × Bytes) : Snapshot :=
  match Reply.decode (.telemetry reply.1) reply.2 s with
  | .ok after => after
  | .error _ => s

/-- Reads replies one after another, each in a layout of its own. -/
def readAll (replies : List (Extension × Bytes)) (s : Snapshot) : Snapshot :=
  replies.foldl readOne s

theorem readOne_eq (s : Snapshot) (reply : Extension × Bytes) :
    readOne s reply = (readOne s reply).keeping s := by
  unfold readOne
  by_cases long : reply.1.replyLength ≤ reply.2.length
  · rw [decode_eq_ok long]
    exact apply_eq long s
  · rw [decode_eq_error long]
    exact s.keeping_self.symm

/-- **A run of replies leaves what one of them leaves.** -/
theorem readAll_eq (replies : List (Extension × Bytes)) (s : Snapshot) :
    readAll replies s = (readAll replies s).keeping s := by
  induction replies generalizing s with
  | nil => exact s.keeping_self.symm
  | cons reply replies ih =>
    calc readAll (reply :: replies) s
        = readAll replies (readOne s reply) := rfl
      _ = (readAll replies (readOne s reply)).keeping (readOne s reply) := ih _
      _ = (readAll replies (readOne s reply)).keeping ((readOne s reply).keeping s) :=
          congrArg _ (readOne_eq s reply)
      _ = (readAll replies (readOne s reply)).keeping s := Snapshot.keeping_kept ..

/-- **The last reply alone tells everything that telemetry can tell.** Read onto any two snapshots, a
reply that is long enough leaves them equal but for what no telemetry reply carries, of which each
keeps its own. Replies read before it, in whatever layouts, leave no trace. Read in two layouts that
it is long enough for, of which there are three from 164 bytes on, it differs in six measurements at
most. -/
theorem telemetry_overwrites {level : Extension} {frame : Bytes}
    (long : level.replyLength ≤ frame.length) :
    (∀ s t : Snapshot, ∃ after after',
      Reply.decode (.telemetry level) frame s = .ok after ∧
      Reply.decode (.telemetry level) frame t = .ok after' ∧
      after = after.keeping s ∧ after' = after.keeping t) ∧
    (∀ (earlier : List (Extension × Bytes)) (s : Snapshot),
      Reply.decode (.telemetry level) frame (readAll earlier s) =
        Reply.decode (.telemetry level) frame s) ∧
    (∀ other : Extension, other.replyLength ≤ frame.length → ∀ s t : Snapshot, ∃ after after',
      Reply.decode (.telemetry level) frame s = .ok after ∧
      Reply.decode (.telemetry other) frame t = .ok after' ∧
      after' = (after.measuredAs after').keeping t) := by
  refine ⟨fun s t => ?_, fun earlier s => ?_, fun other long' s t =>
    ⟨_, _, decode_eq_ok long s, decode_eq_ok long' t, apply_layout long long' s t⟩⟩
  · refine ⟨_, _, decode_eq_ok long s, decode_eq_ok long t, apply_eq long s, ?_⟩
    rw [apply_eq long t, apply_eq long s, Snapshot.keeping_keeping]
  · rw [decode_eq_ok long, decode_eq_ok long, apply_eq long (readAll earlier s), apply_eq long s,
      readAll_eq, Snapshot.keeping_kept]

/-- A unit whose identification was read in the basic layout, and whose telemetry in the longest: the
serial number is still there, and the output voltage is the one that the longest layout gives. -/
theorem identification_overwritten :
    let frame := (List.replicate 164 0x00).set 135 0xFC
    164 ≤ frame.length ∧
      ∃ after, Reply.decode (.telemetry .ext176) frame
          (readAll [(.only192, List.replicate 103 0xFF)] { serial := "WM4" }) = .ok after ∧
        after.serial = "WM4" ∧ after.outputVoltage.l1 = 25 := by
  intro frame
  obtain ⟨same, traceless, -⟩ :=
    telemetry_overwrites (by decide +kernel : Extension.ext176.replyLength ≤ frame.length)
  obtain ⟨after, -, read, -, kept, -⟩ := same { serial := "WM4" } {}
  refine ⟨by decide +kernel, after, (traceless ..).trans read, congrArg Snapshot.serial kept, ?_⟩
  rw [decode_eq_ok (by decide +kernel), Except.ok.injEq] at read
  rw [← read]
  decide +kernel

end Sentry

end UpsMonitor
