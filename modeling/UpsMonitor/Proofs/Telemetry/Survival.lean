import UpsMonitor.Proofs.Telemetry.Naming
import UpsMonitor.Proofs.Telemetry.Recording

/-!
# Whether a recorded line is on disk

Which telemetry files are too many is decided by their names, and the file that was just begun is
no exception. So it depends on the names that are there already whether the lines written to it can
be read. Main statements:

* `Session.begins`, `Session.continues`: what one call adds to the lines of the open file;
* `recordAll_session`: whatever the calls returned, an open file was begun by one of them, and all
  behind it went on with it;
* `recorded_line_is_kept_iff`: a call that succeeds leaves its line on disk exactly if fewer
  telemetry files than are kept had a later name when the file was begun.
-/

namespace UpsMonitor.Telemetry

/-- The lines of a file after some calls wrote to it, behind those it had before. -/
def extended (disk : Disk) (name : String) (samples : List Sample) : List String :=
  (disk.read? name).getD [] ++ samples.map Sample.line

theorem getLast?_extended (disk : Disk) (name : String) {samples : List Sample} {sample : Sample}
    (last : samples.getLast? = some sample) :
    (extended disk name samples).getLast? = some sample.line := by
  rw [extended, List.getLast?_append, List.getLast?_map, last]
  rfl

/-- The open file, from the state before the call that began it. -/
structure Session (before : Recorder × Disk) (opening : Sample) (later : List Sample)
    (state : Recorder × Disk) : Prop where
  due : before.1.needsFile = true
  current : state.1.current = some (opening.nextName before.1)
  written : state.1.written = later.length + 1
  room : later.length < max before.1.maxRecords 1
  limit : state.1.maxRecords = before.1.maxRecords
  /-- The file is there if it survived the pruning right behind its opening. -/
  entry : ∃ handle, state.1.writer = some handle ∧
    state.2.held? (opening.nextName before.1) =
      if (before.2.later (opening.nextName before.1)).length < before.1.maxFiles then
        some (.file handle (extended before.2 (opening.nextName before.1) (opening :: later)))
      else none

variable {before : Recorder × Disk} {opening sample : Sample} {later : List Sample}

theorem Session.begins {opened : Disk} {handle : Nat} (due : before.1.needsFile = true)
    (opens : before.2.openAppend (opening.nextName before.1) = .ok (handle, opened)) :
    Session before opening [] (opening.record before).2 := by
  obtain ⟨present, held, untouched⟩ := Disk.openAppend_ok opens
  have kind : isTelemetryName (opening.nextName before.1) = true := isTelemetryName_fileName _ _
  -- A name is not later than itself, so opening the file changes no count of later names.
  have same : opened.later (opening.nextName before.1) =
      before.2.later (opening.nextName before.1) := untouched _ (isLater_self _)
  rw [record_begins due present opens]
  have room : 0 < max before.1.maxRecords 1 := Nat.lt_of_lt_of_le Nat.one_pos (Nat.le_max_right _ _)
  refine ⟨due, rfl, rfl, room, rfl, handle, rfl, ?_⟩
  rw [Disk.held?_append, Disk.held?_pruned_file kind held, same]
  split
  · exact congrArg some (Entry.written_file ..)
  · rfl

theorem Session.continues {recorder : Recorder} {disk : Disk} {handle : Nat}
    (session : Session before opening later (recorder, disk))
    (writer : recorder.writer = some handle) (more : recorder.written < recorder.maxRecords) :
    Session before opening (later ++ [sample]) (sample.record (recorder, disk)).2 := by
  obtain ⟨due, current, written, room, limit, held, open_file, entry⟩ := session
  cases writer.symm.trans open_file
  have one_more : (later ++ [sample]).length = later.length + 1 := by simp
  rw [record_continues writer more]
  refine ⟨due, current, by simpa [one_more] using written, ?_, limit, handle, writer, ?_⟩
  · simp only at written limit
    -- There was room for one line more, and so many calls wrote one each.
    omega
  · rw [Disk.held?_append, entry]
    split
    · rw [Option.map_some, Entry.written_file]
      simp [extended]
    · rfl

theorem Session.read? {state : Recorder × Disk} (session : Session before opening later state) :
    state.2.read? (opening.nextName before.1) =
      if (before.2.later (opening.nextName before.1)).length < before.1.maxFiles then
        some (extended before.2 (opening.nextName before.1) (opening :: later))
      else none := by
  obtain ⟨handle, -, entry⟩ := session.entry
  rw [Disk.read?_eq, entry]
  split <;> rfl

/-- **Whatever the calls returned,** an open file was begun by one of them, and all behind it went
on with it. -/
theorem recordAll_session (samples : List Sample) (start : Recorder × Disk)
    (closed : start.1.writer = none) :
    (recordAll samples start).1.writer = none ∨
      ∃ earlier opening later, samples = earlier ++ opening :: later ∧
        Session (recordAll earlier start) opening later (recordAll samples start) := by
  induction samples using List.reverseRecOn with
  | nil => exact .inl closed
  | append_singleton samples sample ih =>
    rw [recordAll_concat]
    generalize reached : recordAll samples start = state at ih
    obtain ⟨recorder, disk⟩ := state
    obtain ⟨handle, writer, more⟩ | ⟨due, handle, opened, present, opens⟩ | ⟨due, fault, refuses⟩ :=
      record_cases sample recorder disk
    · obtain closed | ⟨earlier, opening, later, parts, session⟩ := ih
      · cases writer.symm.trans closed
      · refine .inr ⟨earlier, opening, later ++ [sample], ?_, session.continues writer more⟩
        rw [parts, List.append_assoc, List.cons_append]
    · refine .inr ⟨samples, sample, [], rfl, ?_⟩
      rw [reached]
      exact Session.begins due opens
    · rw [record_refused due refuses]
      exact .inl rfl

/-- **A call that succeeds leaves its line on disk** exactly if fewer telemetry files than are kept
had a later name when the open file was begun. That file is the current one. It takes the lines of
all calls since then, and none of them can be read if it was too many at once. -/
theorem recorded_line_is_kept_iff (maxRecords maxFiles : Nat) (disk : Disk) (samples : List Sample)
    (sample : Sample)
    (ok : (sample.record (recordAll samples (Recorder.ofLimits maxRecords maxFiles, disk))).1 =
      .ok ()) :
    ∃ earlier opening later, samples ++ [sample] = earlier ++ opening :: later ∧
      later.length < max maxRecords 1 ∧
      let start := (Recorder.ofLimits maxRecords maxFiles, disk)
      let before := recordAll earlier start
      let final := recordAll (samples ++ [sample]) start
      let name := opening.nextName before.1
      before.1.needsFile = true ∧ final.1.current = some name ∧
      (final.2.read? name = if (before.2.later name).length < max maxFiles 1 then
        some (extended before.2 name (opening :: later)) else none) ∧
      ((final.2.read? name).bind List.getLast? = some sample.line ↔
        (before.2.later name).length < max maxFiles 1) := by
  -- A call that succeeds leaves a file open, so the last of the calls belongs to its session.
  obtain closed | ⟨earlier, opening, later, parts, session⟩ := recordAll_session
    (samples ++ [sample]) (Recorder.ofLimits maxRecords maxFiles, disk) rfl
  · rw [recordAll_concat] at closed
    exact absurd closed (writer_of_ok ok)
  have records : (recordAll earlier (Recorder.ofLimits maxRecords maxFiles, disk)).1.maxRecords =
      max maxRecords 1 := (recordAll_limits earlier _).1
  have files : (recordAll earlier (Recorder.ofLimits maxRecords maxFiles, disk)).1.maxFiles =
      max maxFiles 1 := (recordAll_limits earlier _).2
  have room := session.room
  have read := session.read?
  rw [records, Nat.max_eq_left (Nat.le_max_right _ _)] at room
  rw [files] at read
  have last : (opening :: later).getLast? = some sample := by
    have whole := congrArg List.getLast? parts
    rw [List.getLast?_concat, List.getLast?_append, List.getLast?_cons] at whole
    rw [List.getLast?_cons]
    exact whole.symm
  refine ⟨earlier, opening, later, parts, room, session.due, session.current, read, ?_⟩
  rw [read]
  split
  · next few => exact iff_of_true (getLast?_extended _ _ last) few
  · next few => exact iff_of_false (Option.some_ne_none _).symm few

/-- A folder with one telemetry file, left from when the clock was ahead. -/
def leftFolder : Disk := Disk.emptyFolder.addFile "ups_20991231_235959_0001.jsonl" []

/-- Where one file is kept and the one that is left has a later name, the call succeeds and its
file is gone. -/
theorem line_behind_later_name_is_lost :
    let start := (Recorder.ofLimits 10 1, leftFolder)
    let final := recordAll [eveningSample 15] start
    ((eveningSample 15).record start).1 = .ok () ∧
      final.1.current = some "ups_20240402_183015_0001.jsonl" ∧
      final.2.read? "ups_20240402_183015_0001.jsonl" = none := by
  have ok : ((eveningSample 15).record (Recorder.ofLimits 10 1, leftFolder)).1 = .ok () := by rfl
  obtain ⟨earlier, opening, later, parts, -, -, current, read, -⟩ :=
    recorded_line_is_kept_iff 10 1 leftFolder [] (eveningSample 15) ok
  obtain ⟨rfl, rfl, rfl⟩ : earlier = [] ∧ opening = eveningSample 15 ∧ later = [] := by
    cases earlier with
    | nil => cases parts; exact ⟨rfl, rfl, rfl⟩
    | cons first rest => cases rest <;> cases parts
  have name : (eveningSample 15).nextName (recordAll [] (Recorder.ofLimits 10 1, leftFolder)).1 =
      "ups_20240402_183015_0001.jsonl" := by decide
  rw [name] at current read
  have too_many : ¬ (leftFolder.later "ups_20240402_183015_0001.jsonl").length < 1 := by decide
  exact ⟨ok, current, read.trans (if_neg too_many)⟩

end UpsMonitor.Telemetry
