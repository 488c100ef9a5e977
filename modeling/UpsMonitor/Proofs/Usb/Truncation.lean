import UpsMonitor.Proofs.Frame.Segment
import UpsMonitor.Proofs.Report
import UpsMonitor.Proofs.Usb.Delivery

/-!
# Truncation

What becomes of a GPSER frame that is longer than the buffer. Reading looks at the buffer only
between reports, so a frame may outgrow it within its last report. Main statements:

* `receive_ok_iff`: reading gives the frame of the first report that completes one, unless some
  report before it ends the matter;
* `receive_gpser_iff`: so it gives a frame if the report that ends it arrives before the buffer is
  full;
* `frame_is_cut_iff_outgrown`: and this frame has its end byte unless its segment is longer than the
  buffer.
-/

namespace UpsMonitor.Transport

section
variable {settings : Settings} {asm : Assembler} {seen : Nat → Except Fault Bytes} {k : Nat}

theorem verdict?_eq_ok {frame : Frame} :
    verdict? settings asm seen k = some (.ok frame) ↔
      (∃ report, seen k = .ok report) ∧
        (asm.feedAll (stream seen (k + 1))).frame? = some frame := by
  constructor
  · intro stops
    refine ⟨?_, verdict?_frame stops⟩
    cases came : seen k with
    | ok report => exact ⟨report, rfl⟩
    | error fault =>
      simp only [verdict?, came, Option.some_inj] at stops
      cases stops
  · rintro ⟨⟨report, came⟩, held⟩
    exact verdict?_of_frame came held

theorem verdict?_eq_none :
    verdict? settings asm seen k = none ↔
      (∃ report, seen k = .ok report) ∧ (asm.feedAll (stream seen (k + 1))).frame? = none ∧
        (asm.feedAll (stream seen (k + 1))).isFull = false := by
  cases came : seen k with
  | error fault => simp [verdict?, came]
  | ok report =>
    cases held : (asm.feedAll (stream seen (k + 1))).frame? with
    | some frame => simp [verdict?, came, Assembler.take, held]
    | none => simp [verdict?, came, Assembler.take, held]

/-- A report brings seven bytes at most. -/
theorem length_stream_succ_le (seen : Nat → Except Fault Bytes) (k : Nat) :
    (stream seen (k + 1)).length ≤ (stream seen k).length + 7 := by
  have few : (arrived (seen k)).length ≤ 7 := by
    cases seen k with
    | error fault => exact Nat.zero_le _
    | ok report => exact Report.length_payload_le report
  simp only [stream, List.range_succ, List.flatMap_append, List.flatMap_singleton,
    List.length_append]
  omega

/-- Until the report that brings the end, there is no frame, and the buffer is not full unless it
was brought 512 bytes from the start on. -/
theorem undecided_iff {first last : Nat} (mode : CheckMode)
    (stands : Stands (stream seen (k + 1)) first last) :
    (∀ i, i < k → verdict? settings (.empty .gpser mode) seen i = none) ↔
      (∀ i, i < k → ∃ report, seen i = .ok report) ∧
        (stream seen k).length ≤ last ∧ (stream seen k).length < first + 512 := by
  constructor
  · intro undecided
    refine ⟨fun i before => (verdict?_eq_none.mp (undecided i before)).1, ?_⟩
    cases k with
    | zero =>
      have nothing : (stream seen 0).length = 0 := rfl
      omega
    | succ k =>
      obtain ⟨-, no_frame, not_full⟩ := verdict?_eq_none.mp (undecided k (Nat.lt_succ_self k))
      obtain ⟨more, whole⟩ := stream_mono seen (Nat.le_succ (k + 1))
      rw [← whole] at stands
      have early := stands.early_of_none no_frame
      obtain ⟨-, full_iff⟩ := stands.unended mode early
      have short := mt full_iff.mpr (by simp [not_full])
      exact ⟨early, by omega⟩
  · rintro ⟨came, early, room⟩ i before
    obtain ⟨more, whole⟩ := stream_mono seen (Nat.succ_le_succ (Nat.le_of_lt before))
    have shorter := (stream_mono seen (Nat.succ_le_of_lt before)).length_le
    rw [← whole] at stands
    obtain ⟨no_frame, full_iff⟩ := stands.unended mode (by omega)
    have not_full := mt full_iff.mp (by omega)
    exact verdict?_eq_none.mpr ⟨came i before, no_frame, by simpa using not_full⟩

/-- The first GPSER frame ends in report `k`, which is read before the buffer is full. -/
structure Completes (settings : Settings) (seen : Nat → Except Fault Bytes) (k first last : Nat) :
    Prop where
  within : k < settings.maxReports
  came : ∀ i, i ≤ k → ∃ report, seen i = .ok report
  stands : Stands (stream seen (k + 1)) first last
  ends_here : (stream seen k).length ≤ last
  room : (stream seen k).length < first + 512

end

variable {σ : Type} [Device σ]

/-- **Reading gives the frame of the first report that completes one,** unless a report before it
ends the matter. -/
theorem receive_ok_iff (settings : Settings) (asm : Assembler) (bus : Bus σ) (frame : Frame) :
    let seen := outcomes settings bus.device
    (receive settings asm bus).1 = .ok frame ↔
      ∃ k, k < settings.maxReports ∧ verdict? settings asm seen k = some (.ok frame) ∧
        ∀ i, i < k → verdict? settings asm seen i = none := by
  intro seen
  constructor
  · intro ok
    by_cases decided : ∃ k, k < settings.maxReports ∧ verdict? settings asm seen k ≠ none
    · obtain ⟨last, inside, some_verdict⟩ := decided
      obtain ⟨k, verdict, bound, stops, first⟩ := first_verdict some_verdict
      have within : k < settings.maxReports := Nat.lt_of_le_of_lt bound inside
      obtain ⟨outcome, -, -⟩ := receiveWithin_stops asm bus within stops first
      cases outcome.symm.trans ok
      exact ⟨k, within, stops, first⟩
    · have undecided : ∀ k, k < settings.maxReports → verdict? settings asm seen k = none := by
        intro k within
        by_contra stops
        exact decided ⟨k, within, stops⟩
      cases (receiveWithin_spent asm bus undecided).1.symm.trans ok
  · rintro ⟨k, within, stops, first⟩
    exact (receiveWithin_stops asm bus within stops first).1

/-- **Reading gives a GPSER frame if the report that ends it arrives before the buffer is full.** -/
theorem receive_gpser_iff (settings : Settings) (mode : CheckMode) (bus : Bus σ) (frame : Frame) :
    let seen := outcomes settings bus.device
    (receive settings (.empty .gpser mode) bus).1 = .ok frame ↔
      ∃ k first last, Completes settings seen k first last ∧
        frame = .ofBytes .gpser mode ((segment (stream seen (k + 1)) first last).take 512) := by
  intro seen
  refine (receive_ok_iff settings _ bus frame).trans ?_
  constructor
  · rintro ⟨k, within, stops, before⟩
    obtain ⟨came, held⟩ := verdict?_eq_ok.mp stops
    obtain ⟨first, last, stands, shape⟩ := Assembler.frame?_iff.mp held
    obtain ⟨earlier, ends_here, room⟩ := (undecided_iff mode stands).mp before
    refine ⟨k, first, last, ⟨within, fun i upto => ?_, stands, ends_here, room⟩, shape⟩
    rcases Nat.lt_or_eq_of_le upto with less | rfl
    · exact earlier i less
    · exact came
  · rintro ⟨k, first, last, completes, shape⟩
    have held := Assembler.frame?_iff.mpr ⟨first, last, completes.stands, shape⟩
    refine ⟨k, completes.within, verdict?_eq_ok.mpr ⟨completes.came k (Nat.le_refl k), held⟩, ?_⟩
    apply (undecided_iff mode completes.stands).mpr
    exact ⟨fun i before => completes.came i (Nat.le_of_lt before), completes.ends_here,
      completes.room⟩

/-- A buffer that is full between reports is given up. -/
theorem receive_full (settings : Settings) (family : Family) (mode : CheckMode) (bus : Bus σ)
    {count : Nat} (within : count ≤ settings.maxReports)
    (came : ∀ k, k < count → ∃ report, outcomes settings bus.device k = .ok report)
    (full : ((Assembler.empty family mode).feedAll
      (stream (outcomes settings bus.device) count)).isFull = true) :
    (receive settings (.empty family mode) bus).1 = .error (.timeout settings.maxReports) := by
  let seen := outcomes settings bus.device
  let asm := Assembler.empty family mode
  cases count with
  | zero => cases full
  | succ last =>
    have decided : verdict? settings asm seen last ≠ none := by
      intro undecided
      cases full.symm.trans (verdict?_eq_none.mp undecided).2.2
    obtain ⟨k, verdict, bound, stops, first⟩ := first_verdict decided
    have inside : k < settings.maxReports := by omega
    obtain ⟨outcome, -, -⟩ := receiveWithin_stops asm bus inside stops first
    cases verdict with
    | error fault =>
      obtain ⟨report, ok⟩ := came k (by omega)
      obtain ⟨-, rfl⟩ := verdict?_full ok stops
      exact outcome
    | ok frame =>
      -- A frame that was complete by then would still be there.
      obtain ⟨rest, whole⟩ := stream_mono seen (Nat.succ_le_succ bound)
      have held := verdict?_frame stops
      rw [← whole, Assembler.feedAll_append, Assembler.feedAll_complete held] at full
      cases (Assembler.not_full_of_frame held).symm.trans full

/-- **A GPSER frame has its end byte unless its segment outgrew the buffer.** The frame is the first
512 bytes of a run of what came in, from the start byte to the first end byte behind it. That run is
longer if the buffer is filled up and the end byte arrives in one and the same report, and then the
frame has no end byte. A buffer that is full between two reports gives no frame. -/
theorem frame_is_cut_iff_outgrown (settings : Settings) (mode : CheckMode) (bus : Bus σ) :
    let asm := Assembler.empty .gpser mode
    let seen := outcomes settings bus.device
    let got := receive settings asm bus
    (∀ frame, got.1 = .ok frame ↔ ∃ k first last, Completes settings seen k first last ∧
      frame = .ofBytes .gpser mode ((segment (stream seen (k + 1)) first last).take 512)) ∧
    (∀ k first last, Completes settings seen k first last →
      let run := segment (stream seen (k + 1)) first last
      run <:+: stream seen (k + 1) ∧ run.head? = some 0x02 ∧ run.getLast? = some 0x03 ∧
        run.length ≤ 518 ∧ ((run.take 512).getLast? = some 0x03 ↔ run.length ≤ 512)) ∧
    ∀ count, count ≤ settings.maxReports → (∀ k, k < count → ∃ report, seen k = .ok report) →
      (asm.feedAll (stream seen count)).isFull = true →
      got.1 = .error (.timeout settings.maxReports) := by
  intro asm seen got
  refine ⟨receive_gpser_iff settings mode bus, fun k first last completes => ?_,
    fun count within came full => receive_full settings .gpser mode bus within came full⟩
  intro run
  have stands := completes.stands
  refine ⟨segment_isInfix _ _ _, stands.head_segment, stands.last_segment, ?_,
    stands.last_take_segment (by decide)⟩
  have bounds := stands.bounds
  have grown := length_stream_succ_le seen k
  have room := completes.room
  rw [stands.length_segment]
  omega

/-- The report that brings byte 512 of a frame brings its end byte as well. The frame is given, and
its end byte is not in it. -/
theorem outgrown_frame_loses_its_end :
    let reports : List Bytes := Report.pack (0x02 :: List.replicate 6 0x41) ::
      List.replicate 72 (Report.pack (List.replicate 7 0x41)) ++ [Report.pack [0x41, 0x03]]
    let bus : Bus Bench := { device := { reads := reports.map fun report => .ok report } }
    let got := (receive {} (.empty .gpser .sum) bus).1
    got = .ok (.ofBytes .gpser .sum (0x02 :: List.replicate 511 0x41)) ∧
      (0x02 :: List.replicate 511 (0x41 : UInt8)).getLast? ≠ some 0x03 := by
  intro reports bus got
  let seen := outcomes {} bus.device
  let whole : Bytes := 0x02 :: 0x41 :: (List.replicate 510 0x41 ++ [0x03])
  have delivered : Delivers {} bus.device reports :=
    delivers_bench {} (List.append_nil _).symm
  have came : stream seen 74 = whole := by
    rw [stream_delivered delivered (by decide)]
    decide +kernel
  have before : (stream seen 73).length = 511 := by
    rw [stream_delivered delivered (by decide)]
    decide +kernel
  have no_end : (0x03 : UInt8) ∉ List.replicate 510 (0x41 : UInt8) := fun member =>
    absurd (List.eq_of_mem_replicate member) (by decide)
  have stands : Stands (stream seen 74) 0 512 := by
    rw [came]
    refine ⟨@Assembler.firstStart?_between [] (List.replicate 510 0x41) [] 0x41 rfl (by decide), ?_⟩
    exact (@Assembler.firstEnd?_between [] (List.replicate 510 0x41) [] 0x41 no_end).trans
      (by rw [List.length_replicate]; rfl)
  have completes : Completes {} seen 73 0 512 := by
    refine ⟨by decide, fun i upto => ?_, stands, by omega, by omega⟩
    have inside : i < reports.length := Nat.lt_of_le_of_lt upto (by decide)
    exact ⟨reports[i], delivered i _ (List.getElem?_eq_getElem inside)⟩
  obtain ⟨gives, -, -⟩ := frame_is_cut_iff_outgrown {} .sum bus
  have cut : (segment (stream seen 74) 0 512).take 512 = 0x02 :: List.replicate 511 0x41 := by
    rw [came]
    decide +kernel
  refine ⟨(gives _).mpr ⟨73, 0, 512, completes, by rw [cut]⟩, by decide +kernel⟩

end UpsMonitor.Transport
