import Mathlib.Algebra.Order.Floor.Div
import UpsMonitor.Proofs.Telemetry.Naming
import UpsMonitor.Proofs.Telemetry.Recording

/-!
# Which records are kept

In a folder that held no telemetry files, while the clock is not set back, the names of the files
are in the order in which they were begun. So what pruning leaves is the newest of what was
recorded. Main statements:

* `Shelf.next`: closing a full file and taking away those that are too many;
* `Holds.begins`, `Holds.continues`: what one call does to the telemetry files of the folder;
* `record_retained`: every call succeeds and adds its line behind all others;
* `retained_is_newest`: how many files there are after a run, and which lines they hold.
-/

namespace UpsMonitor.Telemetry

/-! ## Lines in files -/

theorem flatten_drop {limit : Nat} {files : List (List String)}
    (full : ∀ file ∈ files, file.length = limit) (count : Nat) :
    (files.drop count).flatten = files.flatten.drop (limit * count) := by
  induction count generalizing files with
  | zero => rfl
  | succ count ih =>
    cases files with
    | nil => simp
    | cons file files =>
      obtain ⟨first, rest⟩ := List.forall_mem_cons.mp full
      have both : limit * (count + 1) = file.length + limit * count := by
        rw [first, Nat.mul_succ, Nat.add_comm]
      rw [List.drop_succ_cons, ih rest, List.flatten_cons, both, List.drop_length_add_append]

/-- The files before the open one: of `closed` files of `limit` lines each, those that are kept
beside the open one. -/
structure Shelf (limit kept closed : Nat) (lines : List String) (front : List (List String)) :
    Prop where
  total : lines.length = limit * closed
  count : front.length = min (kept - 1) closed
  full : ∀ file ∈ front, file.length = limit
  content : front.flatten = lines.drop (limit * (closed + 1 - kept))

namespace Shelf

variable {limit kept closed : Nat} {lines last : List String} {front : List (List String)}

theorem empty (limit kept : Nat) : Shelf limit kept 0 [] [] where
  total := rfl
  count := by simp
  full := by simp
  content := by simp

/-- **A full file is closed,** and if there are too many then, the oldest of them goes. -/
theorem next (shelf : Shelf limit kept closed lines front) (some_kept : 0 < kept)
    (full : last.length = limit) :
    Shelf limit kept (closed + 1) (lines ++ last)
      ((front ++ [last]).drop (front.length + 1 + 1 - kept)) := by
  have all_full : ∀ file ∈ front ++ [last], file.length = limit := by
    intro file member
    rcases List.mem_append.mp member with old | new
    · exact shelf.full file old
    · rw [List.mem_singleton.mp new, full]
  have count := shelf.count
  refine ⟨?_, ?_, fun file member => all_full file (List.mem_of_mem_drop member), ?_⟩
  · rw [List.length_append, shelf.total, full, Nat.mul_succ]
  · rw [List.length_drop, List.length_append, List.length_singleton]
    omega
  · have gone : limit * (closed + 1 - kept) ≤ lines.length := by
      rw [shelf.total]
      exact Nat.mul_le_mul_left limit (by omega)
    have one_more : closed + 1 - kept + (front.length + 1 + 1 - kept) = closed + 1 + 1 - kept := by
      omega
    rw [flatten_drop all_full, List.flatten_append, shelf.content, List.flatten_singleton,
      ← List.drop_append_of_le_length gone, List.drop_drop, ← Nat.mul_add, one_more]

end Shelf

/-! ## Files in the folder -/

structure Stored where
  name : String
  handle : Nat
  lines : List String

namespace Stored

def entry (file : Stored) : String × Entry := (file.name, .file file.handle file.lines)

/-- The file with a line more at its end. -/
def extend (file : Stored) (line : String) : Stored := { file with lines := file.lines ++ [line] }

end Stored

/-- These are the telemetry files of the folder, and all else in it is as it was at the start. -/
structure Holds (start : Disk) (files : List Stored) (disk : Disk) : Prop where
  telemetry : disk.telemetry = files.map Stored.entry
  others : disk.others = start.others
  present : disk.Present
  sound : disk.Sound
  fresh : start.fresh ≤ disk.fresh

namespace Holds

variable {start disk : Disk} {files front : List Stored} {last : Stored} {name : String}

theorem handle_lt (holds : Holds start files disk) {file : Stored} (member : file ∈ files) :
    file.handle < disk.fresh := by
  have listed : file.entry ∈ disk.telemetry := holds.telemetry ▸ List.mem_map_of_mem member
  exact holds.sound _ _ _ (Disk.held?_eq_some_iff.mpr (List.mem_filter.mp listed).1)

theorem telemetryFiles_eq (holds : Holds start files disk) :
    disk.telemetryFiles = files.map fun file => (file.name, file.lines) := by
  rw [Disk.telemetryFiles, holds.telemetry, List.filterMap_map]
  exact congrFun List.filterMap_eq_map files

/-- A line goes behind those of the last file. -/
theorem continues (holds : Holds start (front ++ [last]) disk) (sound : start.Sound)
    (apart : ∀ file ∈ front, file.handle ≠ last.handle) (new : start.fresh ≤ last.handle)
    (line : String) :
    Holds start (front ++ [last.extend line]) (disk.append last.handle line) := by
  refine ⟨?_, ?_, holds.present.append _ _, holds.sound.append _ _, ?_⟩
  · have others_apart : ∀ name held lines, (name, Entry.file held lines) ∈ front.map Stored.entry →
        held ≠ last.handle := by
      intro name held lines member
      obtain ⟨file, old, eq⟩ := List.mem_map.mp member
      cases eq
      exact apart file old
    have longer : (last.name, (Entry.file last.handle last.lines).written last.handle line) =
        (last.extend line).entry := congrArg (last.name, ·) (Entry.written_file ..)
    rw [Disk.telemetry_append, holds.telemetry, List.map_append, List.map_append, List.map_append,
      Entry.map_written_of_ne others_apart]
    exact congrArg (front.map Stored.entry ++ [·]) longer
  · have old : ∀ name held lines, (name, Entry.file held lines) ∈ start.others →
        held ≠ last.handle := by
      intro name held lines member
      have lt : held < start.fresh :=
        sound _ _ _ (Disk.held?_eq_some_iff.mpr (List.mem_filter.mp member).1)
      omega
    rw [Disk.others_append, holds.others, Entry.map_written_of_ne old]
  · rw [Disk.fresh_append]
    exact holds.fresh

/-- The next file is put behind all others, and if there are too many then, the first ones go. -/
theorem begins (holds : Holds start files disk) (kind : isTelemetryName name = true)
    (behind : ∀ file ∈ files, file.name < name) {kept : Nat} (some_kept : 0 < kept) :
    disk.openAppend name = .ok (disk.fresh, disk.addFile name []) ∧
      Holds start (files.drop (files.length + 1 - kept) ++ [⟨name, disk.fresh, []⟩])
        ((disk.addFile name []).pruned kept) := by
  have entries_behind : ∀ entry ∈ disk.telemetry, entry.1 < name := by
    intro entry member
    rw [holds.telemetry] at member
    obtain ⟨file, old, rfl⟩ := List.mem_map.mp member
    exact behind file old
  have absent : disk.held? name = none := by
    refine Option.eq_none_iff_forall_ne_some.mpr fun entry found => ?_
    have listed : (name, entry) ∈ disk.telemetry :=
      List.mem_filter.mpr ⟨Disk.held?_eq_some_iff.mp found, kind⟩
    exact String.lt_irrefl _ (entries_behind _ listed)
  have opened : (disk.addFile name []).telemetry =
      (files ++ [Stored.mk name disk.fresh []]).map Stored.entry := by
    rw [Disk.telemetry_addFile_last holds.present kind entries_behind, holds.telemetry,
      List.map_append]
    rfl
  refine ⟨Disk.openAppend_new holds.present absent, ?_, ?_, ?_, ?_, ?_⟩
  · have all_files : ∀ entry ∈ (disk.addFile name []).telemetry, entry.2.isFile = true := by
      intro entry member
      rw [opened] at member
      obtain ⟨file, -, rfl⟩ := List.mem_map.mp member
      rfl
    have enough : files.length + 1 - kept ≤ files.length := by omega
    rw [Disk.telemetry_pruned all_files, opened, List.length_map, List.length_append,
      List.length_singleton, ← List.map_drop, List.drop_append_of_le_length enough]
  · rw [Disk.others_pruned, Disk.others_addFile holds.present kind, holds.others]
  · exact (holds.present.addFile name []).pruned kept
  · exact (holds.sound.addFile holds.present name []).pruned kept
  · rw [Disk.fresh_pruned, Disk.fresh_addFile holds.present]
    exact Nat.le_succ_of_le holds.fresh

end Holds

/-! ## The recorder and its files -/

/-- The file was begun by one of the calls, and its number is none that is still to come. -/
def Named (samples : List Sample) (begun : Nat) (file : Stored) : Prop :=
  ∃ sample ∈ samples, ∃ number ≤ begun, file.name = fileName sample.fileTime number

theorem Named.mono {samples more : List Sample} {begun later : Nat} {file : Stored}
    (named : Named samples begun file) (subset : samples ⊆ more) (le : begun ≤ later) :
    Named more later file := by
  obtain ⟨sample, member, number, number_le, name⟩ := named
  exact ⟨sample, subset member, number, Nat.le_trans number_le le, name⟩

/-- The state after at least one call: so many files were closed, with the `older` lines in them.
Those in `front` are kept, and `last` is open. -/
structure Retained (start : Disk) (limit kept : Nat) (samples : List Sample)
    (state : Recorder × Disk) (closed : Nat) (older : List String) (front : List Stored)
    (last : Stored) : Prop where
  shelf : Shelf limit kept closed older (front.map Stored.lines)
  lines : samples.map Sample.line = older ++ last.lines
  started : 0 < last.lines.length
  fits : last.lines.length ≤ limit
  recorder : state.1 =
    { maxRecords := limit, maxFiles := kept, writer := some last.handle, current := some last.name,
      written := last.lines.length, sequence := .ofNat (closed + 1) }
  holds : Holds start (front ++ [last]) state.2
  apart : ∀ file ∈ front, file.handle ≠ last.handle
  new : start.fresh ≤ last.handle
  named : ∀ file ∈ front ++ [last], Named samples (closed + 1) file

namespace Retained

variable {start : Disk} {limit kept closed : Nat} {samples : List Sample}
  {state : Recorder × Disk} {older : List String} {front : List Stored} {last : Stored}

theorem length_eq (retained : Retained start limit kept samples state closed older front last) :
    samples.length = limit * closed + last.lines.length := by
  have length := congrArg List.length retained.lines
  rwa [List.length_map, List.length_append, retained.shelf.total] at length

/-- The files that were begun are as many as the lines need. -/
theorem ceilDiv_eq (retained : Retained start limit kept samples state closed older front last) :
    samples.length ⌈/⌉ limit = closed + 1 := by
  have started := retained.started
  have fits := retained.fits
  have some_room : 0 < limit := by omega
  apply Nat.le_antisymm
  · rw [ceilDiv_le_iff_le_mul some_room, retained.length_eq, Nat.mul_succ]
    omega
  · refine Nat.lt_of_not_le fun fewer => ?_
    rw [ceilDiv_le_iff_le_mul some_room, retained.length_eq] at fewer
    omega

/-- A full file is closed by the next call. -/
theorem closes (retained : Retained start limit kept samples state closed older front last)
    (some_kept : 0 < kept) (full : last.lines.length = limit) :
    Shelf limit kept (closed + 1) (samples.map Sample.line)
      (((front ++ [last]).drop ((front ++ [last]).length + 1 - kept)).map Stored.lines) := by
  have next := retained.shelf.next some_kept full
  rw [List.length_map] at next
  rw [retained.lines, List.map_drop, List.map_append, List.length_append]
  exact next

/-- The lines that are left are the last ones. -/
theorem flatten_eq (retained : Retained start limit kept samples state closed older front last)
    (some_kept : 0 < kept) :
    ((front ++ [last]).map Stored.lines).flatten =
      (samples.map Sample.line).drop (limit * (closed + 1 - kept)) := by
  have short : limit * (closed + 1 - kept) ≤ older.length := by
    rw [retained.shelf.total]
    exact Nat.mul_le_mul_left limit (by omega)
  rw [List.map_append, List.flatten_append, retained.shelf.content, retained.lines,
    List.drop_append_of_le_length short]
  exact congrArg _ (List.flatten_singleton ..)

end Retained

section Calls

variable {start disk : Disk} {limit kept closed : Nat} {samples : List Sample} {sample : Sample}
  {older : List String} {files front : List Stored} {last : Stored}

/-- **A call that goes on with the open file** adds its line to it. -/
theorem record_continues_retained {state : Recorder × Disk} (sample : Sample) (sound : start.Sound)
    (retained : Retained start limit kept samples state closed older front last)
    (room : last.lines.length < limit) :
    (sample.record state).1 = .ok () ∧
      Retained start limit kept (samples ++ [sample]) (sample.record state).2 closed older front
        (last.extend sample.line) := by
  obtain ⟨shelf, lines, started, fits, recorder, holds, apart, new, named⟩ := retained
  obtain ⟨_, disk⟩ := state
  cases recorder
  rw [record_continues rfl room]
  have length : (last.extend sample.line).lines.length = last.lines.length + 1 := by
    simp [Stored.extend]
  refine ⟨rfl, shelf, ?_, by omega, by omega, ?_, holds.continues sound apart new _, apart, new, ?_⟩
  · rw [List.map_append, lines, List.append_assoc]
    rfl
  · rw [length]
    rfl
  · have wider : samples ⊆ samples ++ [sample] := List.subset_append_left _ _
    intro file member
    rcases List.mem_append.mp member with old | open_file
    · exact (named file (List.mem_append_left _ old)).mono wider (Nat.le_refl _)
    · cases List.mem_singleton.mp open_file
      have before := named last (List.mem_append_right _ List.mem_cons_self)
      exact before.mono wider (Nat.le_refl _)

/-- **A call that begins a file** puts it behind those that are there. -/
theorem record_begins_retained {recorder : Recorder} (samples : List Sample) (sample : Sample)
    (sound : start.Sound) (some_kept : 0 < kept) (some_room : 0 < limit)
    (due : recorder.needsFile = true)
    (limits : recorder.maxRecords = limit ∧ recorder.maxFiles = kept)
    (begun : recorder.sequence.toNat = closed)
    (holds : Holds start files disk)
    (shelf : Shelf limit kept closed (samples.map Sample.line)
      ((files.drop (files.length + 1 - kept)).map Stored.lines))
    (named : ∀ file ∈ files, Named samples closed file)
    (ordered : ∀ earlier ∈ samples, earlier.fileTime.stamp ≤ sample.fileTime.stamp)
    (few : closed + 1 < 10000) :
    (sample.record (recorder, disk)).1 = .ok () ∧
      Retained start limit kept (samples ++ [sample]) (sample.record (recorder, disk)).2 closed
        (samples.map Sample.line) (files.drop (files.length + 1 - kept))
        ⟨sample.nextName recorder, disk.fresh, [sample.line]⟩ := by
  obtain ⟨rfl, rfl⟩ := limits
  subst begun
  have next : (recorder.sequence + 1).toNat = recorder.sequence.toNat + 1 := by
    have one : (1 : UInt32).toNat = 1 := rfl
    rw [UInt32.toNat_add, one]
    omega
  have counted : recorder.sequence + 1 = .ofNat (recorder.sequence.toNat + 1) := by
    rw [← next, UInt32.ofNat_toNat]
  have kind : isTelemetryName (sample.nextName recorder) = true := isTelemetryName_fileName _ _
  have behind : ∀ file ∈ files, file.name < sample.nextName recorder := by
    intro file member
    obtain ⟨earlier, called, number, le, name⟩ := named file member
    rw [name, Sample.nextName, next]
    exact fileName_lt_fileName (ordered earlier called) (Nat.lt_succ_of_le le) few
  obtain ⟨opens, opened⟩ := holds.begins kind behind some_kept
  have apart : ∀ file ∈ files.drop (files.length + 1 - recorder.maxFiles),
      file.handle ≠ disk.fresh :=
    fun file member => Nat.ne_of_lt (holds.handle_lt (List.mem_of_mem_drop member))
  rw [record_begins due (holds.present.addFile _ _) opens, counted]
  refine ⟨rfl, shelf, ?_, Nat.one_pos, some_room, rfl, opened.continues sound apart holds.fresh _,
    apart, holds.fresh, ?_⟩
  · rw [List.map_append]
    rfl
  · intro file member
    rcases List.mem_append.mp member with old | new
    · exact (named file (List.mem_of_mem_drop old)).mono (List.subset_append_left _ _)
        (Nat.le_succ _)
    · cases List.mem_singleton.mp new
      refine ⟨sample, List.mem_append_right _ List.mem_cons_self, _, Nat.le_refl _, ?_⟩
      exact congrArg (fileName sample.fileTime) next

/-- **A call after a full file** begins the next one. -/
theorem record_closes_retained {state : Recorder × Disk} (sample : Sample) (sound : start.Sound)
    (some_kept : 0 < kept)
    (retained : Retained start limit kept samples state closed older front last)
    (full : last.lines.length = limit)
    (ordered : ∀ earlier ∈ samples, earlier.fileTime.stamp ≤ sample.fileTime.stamp)
    (few : samples.length < limit * 9999) :
    (sample.record state).1 = .ok () ∧ ∃ front last,
      Retained start limit kept (samples ++ [sample]) (sample.record state).2 (closed + 1)
        (samples.map Sample.line) front last := by
  have shelf := retained.closes some_kept full
  -- The new number still has four digits, on which the order of names rests.
  have recorded : samples.length = limit * (closed + 1) := by
    rw [retained.length_eq, full, Nat.mul_succ]
  have numbered : closed + 1 < 9999 := Nat.lt_of_mul_lt_mul_left (recorded ▸ few)
  obtain ⟨-, -, started, -, recorder, holds, -, -, named⟩ := retained
  obtain ⟨_, disk⟩ := state
  cases recorder
  have due : (Recorder.mk limit kept (some last.handle) (some last.name) last.lines.length
      (.ofNat (closed + 1))).needsFile = true := by
    simp [Recorder.needsFile, full]
  have begun : (UInt32.ofNat (closed + 1)).toNat = closed + 1 :=
    UInt32.toNat_ofNat_of_lt' (Nat.lt_trans numbered (by decide))
  obtain ⟨ok, retained⟩ := record_begins_retained samples sample sound some_kept
    (full ▸ started) due ⟨rfl, rfl⟩ begun holds shelf named ordered (Nat.succ_lt_succ numbered)
  exact ⟨ok, _, _, retained⟩

end Calls

/-- **Every call of a run** succeeds and adds its line behind all others. -/
theorem record_retained (maxRecords maxFiles : Nat) {start : Disk} (present : start.Present)
    (sound : start.Sound) (unused : start.telemetry = []) (samples : List Sample) (sample : Sample)
    (ordered : (samples ++ [sample]).Pairwise (·.fileTime.stamp ≤ ·.fileTime.stamp))
    (few : samples.length < max maxRecords 1 * 9999) :
    let recorder := Recorder.ofLimits maxRecords maxFiles
    (sample.record (recordAll samples (recorder, start))).1 = .ok () ∧
      ∃ closed older front last,
        Retained start (max maxRecords 1) (max maxFiles 1) (samples ++ [sample])
          (recordAll (samples ++ [sample]) (recorder, start)) closed older front last := by
  have some_room : 0 < max maxRecords 1 := Nat.lt_of_lt_of_le Nat.one_pos (Nat.le_max_right _ _)
  have some_kept : 0 < max maxFiles 1 := Nat.lt_of_lt_of_le Nat.one_pos (Nat.le_max_right _ _)
  simp only
  rw [recordAll_concat]
  -- By the calls so far: the last one tells whether the next one finds room in the open file.
  induction samples using List.reverseRecOn generalizing sample with
  | nil =>
    have holds : Holds start [] start := ⟨unused, rfl, present, sound, Nat.le_refl _⟩
    have due : (Recorder.ofLimits maxRecords maxFiles).needsFile = true := rfl
    have shelf : Shelf (max maxRecords 1) (max maxFiles 1) 0 []
        ((([] : List Stored).drop (0 + 1 - max maxFiles 1)).map Stored.lines) := by
      rw [List.drop_nil]
      exact .empty _ _
    have none_named : ∀ file ∈ ([] : List Stored), Named [] 0 file := by simp
    obtain ⟨ok, retained⟩ := record_begins_retained [] sample sound some_kept some_room due
      ⟨rfl, rfl⟩ rfl holds shelf none_named (by simp) (show 0 + 1 < 10000 by decide)
    exact ⟨ok, _, _, _, _, retained⟩
  | append_singleton samples previous ih =>
    obtain ⟨before_ordered, -, last_of_all⟩ := List.pairwise_append.mp ordered
    rw [List.length_append, List.length_singleton] at few
    obtain ⟨-, closed, older, front, last, retained⟩ := ih previous before_ordered (by omega)
    rw [recordAll_concat]
    rcases Nat.lt_or_eq_of_le retained.fits with room | full
    · obtain ⟨ok, retained⟩ := record_continues_retained sample sound retained room
      exact ⟨ok, _, _, _, _, retained⟩
    · have later : ∀ earlier ∈ samples ++ [previous],
          earlier.fileTime.stamp ≤ sample.fileTime.stamp :=
        fun earlier member => last_of_all earlier member sample List.mem_cons_self
      have more : (samples ++ [previous]).length < max maxRecords 1 * 9999 := by
        rwa [List.length_append, List.length_singleton]
      obtain ⟨ok, _, _, retained⟩ :=
        record_closes_retained sample sound some_kept retained full later more
      exact ⟨ok, _, _, _, _, retained⟩

/-- **Retained telemetry is the newest suffix.** In a folder without telemetry files, while the
stamps do not decrease and fewer than ten thousand files are begun, every call succeeds. Then the
folder has as many telemetry files as were begun, up to the limit. All but the last by name are
full, the last one is the current file with what remains, and together they hold the last lines that
were recorded, in order. Nothing else in the folder changes. -/
theorem retained_is_newest (maxRecords maxFiles : Nat) (disk : Disk) (samples : List Sample)
    (present : disk.Present) (sound : disk.Sound) (unused : disk.telemetry = [])
    (recorded : samples ≠ [])
    (ordered : samples.Pairwise (·.fileTime.stamp ≤ ·.fileTime.stamp))
    (few : samples.length ⌈/⌉ max maxRecords 1 < 10000) :
    let start := (Recorder.ofLimits maxRecords maxFiles, disk)
    let final := recordAll samples start
    let files := final.2.telemetryFiles
    let limit := max maxRecords 1
    let kept := max maxFiles 1
    let begun := samples.length ⌈/⌉ limit
    (∀ earlier sample later, samples = earlier ++ sample :: later →
      (sample.record (recordAll earlier start)).1 = .ok ()) ∧
    (files.map Prod.fst).Pairwise (· < ·) ∧
    files.length = min kept begun ∧
    (∀ file ∈ files.dropLast, file.2.length = limit) ∧
    (∃ last, files.getLast? = some last ∧ final.1.current = some last.1 ∧
      last.2.length = samples.length - limit * (begun - 1)) ∧
    (files.map Prod.snd).flatten = (samples.map Sample.line).drop (limit * (begun - kept)) ∧
    ∀ name, isTelemetryName name = false → final.2.held? name = disk.held? name := by
  have some_room : 0 < max maxRecords 1 := Nat.lt_of_lt_of_le Nat.one_pos (Nat.le_max_right _ _)
  have some_kept : 0 < max maxFiles 1 := Nat.lt_of_lt_of_le Nat.one_pos (Nat.le_max_right _ _)
  have fits : samples.length ≤ max maxRecords 1 * 9999 :=
    (ceilDiv_le_iff_le_mul some_room).mp (Nat.le_of_lt_succ few)
  have each (earlier : List Sample) (sample : Sample) (later : List Sample)
      (parts : samples = earlier ++ sample :: later) :
      (earlier ++ [sample]).Pairwise (·.fileTime.stamp ≤ ·.fileTime.stamp) ∧
        earlier.length < max maxRecords 1 * 9999 := by
    rw [parts, List.append_cons] at ordered
    rw [parts, List.length_append, List.length_cons] at fits
    exact ⟨(List.pairwise_append.mp ordered).1, by omega⟩
  have succeeds (earlier : List Sample) (sample : Sample) (later : List Sample)
      (parts : samples = earlier ++ sample :: later) :=
    record_retained maxRecords maxFiles present sound unused earlier sample
      (each earlier sample later parts).1 (each earlier sample later parts).2
  obtain ⟨before, sample, rfl⟩ := (List.eq_nil_or_concat' samples).resolve_left recorded
  obtain ⟨-, closed, older, front, last, retained⟩ := succeeds before sample [] rfl
  have count := retained.shelf.count
  rw [List.length_map] at count
  have in_order := Disk.telemetryFiles_sorted
    (recordAll (before ++ [sample]) (Recorder.ofLimits maxRecords maxFiles, disk)).2
  simp only [retained.holds.telemetryFiles_eq, retained.ceilDiv_eq] at in_order ⊢
  refine ⟨fun earlier sample later parts => (succeeds earlier sample later parts).1, in_order, ?_,
    ?_, ⟨(last.name, last.lines), ?_, ?_, ?_⟩, ?_, ?_⟩
  · rw [List.length_map, List.length_append, List.length_singleton, count]
    omega
  · rw [List.map_append, List.map_singleton, List.dropLast_concat]
    intro file member
    obtain ⟨stored, stored_in, rfl⟩ := List.mem_map.mp member
    exact retained.shelf.full _ (List.mem_map_of_mem stored_in)
  · rw [List.map_append, List.map_singleton, List.getLast?_concat]
  · rw [retained.recorder]
  · rw [retained.length_eq, Nat.add_sub_cancel, Nat.add_sub_cancel_left]
  · rw [List.map_map]
    exact retained.flatten_eq some_kept
  · intro name kind
    rw [Disk.held?_others _ kind, Disk.held?_others _ kind, retained.holds.others]

/-- A folder with a file in it that is not the recorder's. -/
def notesFolder : Disk := Disk.emptyFolder.addFile "notes.txt" ["keep me"]

/-- Of five records in files of two, where two files are kept, the last three are left. -/
theorem last_three_of_five_are_left :
    let final := recordAll
      [eveningSample 10, eveningSample 10, eveningSample 12, eveningSample 13, eveningSample 14]
      (Recorder.ofLimits 2 2, notesFolder)
    final.2.telemetryFiles.length = 2 ∧
      (final.2.telemetryFiles.map Prod.snd).flatten =
        [(eveningSample 12).line, (eveningSample 13).line, (eveningSample 14).line] ∧
      final.2.held? "notes.txt" = notesFolder.held? "notes.txt" := by
  have present : notesFolder.Present := Disk.emptyFolder_present.addFile _ _
  have sound : notesFolder.Sound := Disk.emptyFolder_sound.addFile Disk.emptyFolder_present _ _
  obtain ⟨-, -, count, -, -, content, others⟩ := retained_is_newest 2 2 notesFolder
    [eveningSample 10, eveningSample 10, eveningSample 12, eveningSample 13, eveningSample 14]
    present sound rfl (List.cons_ne_nil _ _) (by decide) (by decide)
  exact ⟨count, content, others "notes.txt" (by decide)⟩

end UpsMonitor.Telemetry
