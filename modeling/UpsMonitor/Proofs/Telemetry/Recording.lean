import Mathlib.Data.List.Induction
import UpsMonitor.Proofs.Telemetry.Folder

/-!
# Calls of the recorder

A run of the recorder as the list of its calls, and what one call does: it goes on with the open
file, or it begins the next one, or it is refused. Main statements:

* `record_continues`, `record_begins`, `record_refused`: the three ways;
* `record_cases`: there is no other.
-/

namespace UpsMonitor.Telemetry

/-- A call of the recorder: what it is to record, and what the clock shows meanwhile. -/
structure Sample where
  /-- The time a file is named for, if this call begins one. -/
  fileTime : LocalTime
  recordTime : LocalTime
  family : Family
  snapshot : Snapshot

namespace Sample

def line (sample : Sample) : String := lineOf sample.recordTime sample.family sample.snapshot

/-- What the call returns, and the recorder and the disk after it. -/
def record (sample : Sample) (state : Recorder × Disk) : Except DiskFault Unit × Recorder × Disk :=
  state.1.record sample.fileTime sample.recordTime sample.family sample.snapshot state.2

/-- The name of the file that this call begins if one is due. -/
def nextName (sample : Sample) (recorder : Recorder) : String :=
  fileName sample.fileTime (recorder.sequence + 1).toNat

end Sample

/-- The recorder and the disk after some calls, whatever they returned. -/
def recordAll (samples : List Sample) (state : Recorder × Disk) : Recorder × Disk :=
  samples.foldl (fun state sample => (sample.record state).2) state

theorem recordAll_concat (samples : List Sample) (sample : Sample) (state : Recorder × Disk) :
    recordAll (samples ++ [sample]) state = (sample.record (recordAll samples state)).2 := by
  rw [recordAll, List.foldl_append]
  rfl

/-! ## One call -/

variable {recorder : Recorder} {disk opened : Disk} {sample : Sample} {handle : Nat}

theorem record_continues (writer : recorder.writer = some handle)
    (room : recorder.written < recorder.maxRecords) :
    sample.record (recorder, disk) =
      (.ok (), { recorder with written := recorder.written + 1 },
        disk.append handle sample.line) := by
  have open_file : recorder.needsFile = false := by
    simp [Recorder.needsFile, writer, room]
  simp only [Sample.record, Recorder.record, open_file, Recorder.write, writer]
  rfl

theorem record_begins (due : recorder.needsFile = true) (present : opened.Present)
    (opens : disk.openAppend (sample.nextName recorder) = .ok (handle, opened)) :
    sample.record (recorder, disk) =
      (.ok (),
        { recorder with
          writer := some handle, current := some (sample.nextName recorder), written := 1,
          sequence := recorder.sequence + 1 },
        (opened.pruned recorder.maxFiles).append handle sample.line) := by
  unfold Sample.nextName at opens
  simp only [Sample.record, Recorder.record, due, Recorder.rotate, opens,
    Disk.prune_eq _ present, Recorder.write]
  rfl

theorem record_refused {fault : DiskFault} (due : recorder.needsFile = true)
    (refuses : disk.openAppend (sample.nextName recorder) = .error fault) :
    sample.record (recorder, disk) =
      (.error fault, { recorder with writer := none, sequence := recorder.sequence + 1 },
        disk) := by
  unfold Sample.nextName at refuses
  simp only [Sample.record, Recorder.record, due, Recorder.rotate, refuses]
  rfl

/-- **Every call** goes on with the open file, begins the next one, or is refused. -/
theorem record_cases (sample : Sample) (recorder : Recorder) (disk : Disk) :
    (∃ handle, recorder.writer = some handle ∧ recorder.written < recorder.maxRecords) ∨
    (recorder.needsFile = true ∧ ∃ handle opened, opened.Present ∧
      disk.openAppend (sample.nextName recorder) = .ok (handle, opened)) ∨
    (recorder.needsFile = true ∧
      ∃ fault, disk.openAppend (sample.nextName recorder) = .error fault) := by
  cases due : recorder.needsFile with
  | false =>
    left
    unfold Recorder.needsFile at due
    obtain ⟨is_open, room⟩ := Bool.or_eq_false_iff.mp due
    obtain ⟨handle, writer⟩ := Option.isSome_iff_exists.mp (by simpa using is_open)
    exact ⟨handle, writer, by simpa using room⟩
  | true =>
    right
    cases opens : disk.openAppend (sample.nextName recorder) with
    | ok result => exact .inl ⟨rfl, result.1, result.2, (Disk.openAppend_ok opens).1, rfl⟩
    | error fault => exact .inr ⟨rfl, fault, rfl⟩

theorem writer_of_ok {state : Recorder × Disk} (ok : (sample.record state).1 = .ok ()) :
    (sample.record state).2.1.writer ≠ none := by
  obtain ⟨recorder, disk⟩ := state
  obtain ⟨handle, writer, room⟩ | ⟨due, handle, opened, present, opens⟩ | ⟨due, fault, refuses⟩ :=
    record_cases sample recorder disk
  · rw [record_continues writer room]
    exact ne_of_eq_of_ne writer (Option.some_ne_none handle)
  · rw [record_begins due present opens]
    exact Option.some_ne_none handle
  · rw [record_refused due refuses] at ok
    cases ok

/-- The limits stay what they were. -/
theorem recordAll_limits (samples : List Sample) (state : Recorder × Disk) :
    (recordAll samples state).1.maxRecords = state.1.maxRecords ∧
      (recordAll samples state).1.maxFiles = state.1.maxFiles := by
  induction samples using List.reverseRecOn with
  | nil => exact ⟨rfl, rfl⟩
  | append_singleton samples sample ih =>
    rw [recordAll_concat]
    generalize recordAll samples state = before at ih
    obtain ⟨recorder, disk⟩ := before
    obtain ⟨handle, writer, room⟩ | ⟨due, handle, opened, present, opens⟩ | ⟨due, fault, refuses⟩ :=
      record_cases sample recorder disk
    · rw [record_continues writer room]
      exact ih
    · rw [record_begins due present opens]
      exact ih
    · rw [record_refused due refuses]
      exact ih

/-- An empty snapshot, recorded on a spring evening. -/
def eveningSample (second : Fin 61) : Sample where
  fileTime := ⟨2024, 4, 2, 18, 30, second, 0, 120⟩
  recordTime := ⟨2024, 4, 2, 18, 30, second, 0, 120⟩
  family := .gpser
  snapshot := {}

end UpsMonitor.Telemetry
