import UpsMonitor.Proofs.Frame.OneShot

/-!
# Segments

Where the first GPSER frame of a stream stands, and what an assembler has of it when only a part of
the stream came in. Main statements:

* `frame?_iff`: a frame is as much of its segment as the buffer holds;
* `Stands.unended`: before the end came in there is no frame, and the buffer is full as soon as it
  was brought 512 bytes from the start on.
-/

namespace UpsMonitor

/-- The first GPSER frame of a stream begins at `first` and has its end byte at `last`. -/
structure Stands (stream : Bytes) (first last : Nat) : Prop where
  starts : firstStart? .gpser stream = some (first + 1)
  ends : firstEnd? stream (first + 1) = some last

/-- The bytes from one place to another, both included. -/
def segment (stream : Bytes) (first last : Nat) : Bytes :=
  (stream.drop first).take (last + 1 - first)

theorem segment_isInfix (stream : Bytes) (first last : Nat) :
    segment stream first last <:+: stream :=
  (List.take_prefix _ _).isInfix.trans (List.drop_suffix _ _).isInfix

theorem segment_getElem? {stream : Bytes} {first last k : Nat} (inside : first + k ≤ last) :
    (segment stream first last)[k]? = stream[first + k]? := by
  rw [segment, List.getElem?_take_of_lt (by omega), List.getElem?_drop]

theorem firstStart?_append_iff {family : Family} {stream : Bytes} {i : Nat} (more : Bytes)
    (inside : i < stream.length) :
    firstStart? family (stream ++ more) = some i ↔ firstStart? family stream = some i := by
  have same : ∀ k, k ≤ i → startsAt family (stream ++ more) k = startsAt family stream k :=
    fun k upto => startsAt_append family stream more (by omega)
  rw [firstStart?_eq_some, firstStart?_eq_some, same i (Nat.le_refl i)]
  refine and_congr_right fun _ => forall_congr' fun k => forall_congr' fun before => ?_
  rw [same k (Nat.le_of_lt before)]

theorem firstEnd?_append_iff {stream : Bytes} {start j : Nat} (more : Bytes)
    (inside : j < stream.length) :
    firstEnd? (stream ++ more) start = some j ↔ firstEnd? stream start = some j := by
  have same : ∀ k, k ≤ j → (stream ++ more)[k]? = stream[k]? :=
    fun k upto => List.getElem?_append_left (by omega)
  rw [firstEnd?_eq_some, firstEnd?_eq_some, same j (Nat.le_refl j)]
  refine and_congr_right fun _ => and_congr_right fun _ => forall_congr' fun k =>
    forall_congr' fun _ => forall_congr' fun before => ?_
  rw [same k (Nat.le_of_lt before)]

namespace Stands

variable {stream : Bytes} {first last : Nat}

theorem bounds (h : Stands stream first last) : first + 1 < last ∧ last < stream.length := by
  obtain ⟨behind, etx, -⟩ := firstEnd?_eq_some.mp h.ends
  exact ⟨behind, (List.getElem?_eq_some_iff.mp etx).1⟩

theorem length_segment (h : Stands stream first last) :
    (segment stream first last).length = last + 1 - first := by
  have bounds := h.bounds
  simp only [segment, List.length_take, List.length_drop]
  omega

theorem head_segment (h : Stands stream first last) :
    (segment stream first last).head? = some 0x02 := by
  have bounds := h.bounds
  obtain ⟨-, previous, current, at_first, -, stx, -⟩ :=
    startsAt_iff.mp (firstStart?_eq_some.mp h.starts).1
  rw [List.head?_eq_getElem?, segment_getElem? (by omega)]
  exact at_first.trans (congrArg some stx)

theorem last_segment (h : Stands stream first last) :
    (segment stream first last).getLast? = some 0x03 := by
  have bounds := h.bounds
  have place : first + (last + 1 - first - 1) = last := by omega
  rw [List.getLast?_eq_getElem?, h.length_segment, segment_getElem? (by omega), place]
  exact (firstEnd?_eq_some.mp h.ends).2.1

/-- A segment has no end byte but its last. -/
theorem inner_segment (h : Stands stream first last) {k : Nat} (inside : first + k < last) :
    (segment stream first last)[k]? ≠ some 0x03 := by
  obtain ⟨-, previous, current, at_first, behind, stx, visible⟩ :=
    startsAt_iff.mp (firstStart?_eq_some.mp h.starts).1
  rw [segment_getElem? (by omega)]
  rcases k with _ | _ | k
  · have stx : stream[first + 0]? = some 0x02 := at_first.trans (congrArg some stx)
    rw [stx]
    decide
  · have visible' : current ≠ 0x03 := by
      rintro rfl
      exact absurd visible (by decide)
    rw [behind]
    simpa using visible'
  · exact (firstEnd?_eq_some.mp h.ends).2.2 _ (by omega) inside

/-- What is cut off a segment takes its end byte with it. -/
theorem last_take_segment (h : Stands stream first last) {capacity : Nat} (room : 0 < capacity) :
    ((segment stream first last).take capacity).getLast? = some 0x03 ↔
      (segment stream first last).length ≤ capacity := by
  constructor
  · intro ends
    apply Nat.le_of_not_lt
    intro long
    rw [h.length_segment] at long
    have short : ((segment stream first last).take capacity).length = capacity := by
      rw [List.length_take, h.length_segment]
      omega
    rw [List.getLast?_eq_getElem?, short, List.getElem?_take_of_lt (by omega)] at ends
    exact h.inner_segment (by omega) ends
  · intro fits
    rw [List.take_of_length_le fits]
    exact h.last_segment

end Stands

namespace Assembler

variable {mode : CheckMode} {stream : Bytes} {first last : Nat}

/-- What is complete has all the room it needs. -/
theorem not_full_of_frame {asm : Assembler} {frame : Frame} (held : asm.frame? = some frame) :
    asm.isFull = false := by
  unfold frame? at held
  unfold isFull
  split at held
  · next complete => rw [complete]
  · cases held

/-- **A frame is as much of its segment as the buffer holds.** -/
theorem frame?_iff {frame : Frame} :
    ((empty .gpser mode).feedAll stream).frame? = some frame ↔
      ∃ first last, Stands stream first last ∧
        frame = .ofBytes .gpser mode ((segment stream first last).take 512) := by
  rw [empty_feedAll]
  constructor
  · intro held
    cases start : firstStart? .gpser stream with
    | none =>
      rw [oneShot_idle start] at held
      cases held
    | some i =>
      obtain ⟨positive, -⟩ := firstStart?_bounds start
      cases ends : firstEnd? stream i with
      | none =>
        rw [oneShot_gpser_open start ends] at held
        cases held
      | some j =>
        obtain ⟨first, rfl⟩ : ∃ first, i = first + 1 := ⟨i - 1, by omega⟩
        have stands : Stands stream first j := ⟨start, ends⟩
        have bounds := stands.bounds
        have count : j - (first + 1) + 2 = j + 1 - first := by omega
        rw [oneShot_gpser_ended start ends, count] at held
        cases held
        exact ⟨first, j, stands, rfl⟩
  · rintro ⟨first, last, stands, rfl⟩
    have bounds := stands.bounds
    have count : last - (first + 1) + 2 = last + 1 - first := by omega
    rw [oneShot_gpser_ended stands.starts stands.ends, count]
    rfl

end Assembler

/-- As long as there is no frame its end did not come in. -/
theorem Stands.early_of_none {before more : Bytes} {first last : Nat} {mode : CheckMode}
    (h : Stands (before ++ more) first last)
    (no_frame : ((Assembler.empty .gpser mode).feedAll before).frame? = none) :
    before.length ≤ last := by
  apply Nat.le_of_not_lt
  intro inside
  have bounds := h.bounds
  have stands : Stands before first last :=
    ⟨(firstStart?_append_iff more (by omega)).mp h.starts,
      (firstEnd?_append_iff more inside).mp h.ends⟩
  cases no_frame.symm.trans (Assembler.frame?_iff.mpr ⟨first, last, stands, rfl⟩)

/-- **Before its end came in** a frame is not there, and the buffer is full when it was brought 512
bytes from the start on. -/
theorem Stands.unended {before more : Bytes} {first last : Nat} (mode : CheckMode)
    (h : Stands (before ++ more) first last) (early : before.length ≤ last) :
    ((Assembler.empty .gpser mode).feedAll before).frame? = none ∧
      (((Assembler.empty .gpser mode).feedAll before).isFull = true ↔
        first + 512 ≤ before.length) := by
  rw [Assembler.empty_feedAll]
  cases start : firstStart? .gpser before with
  | none =>
    rw [Assembler.oneShot_idle start]
    -- The start pattern is not whole yet.
    have short : before.length ≤ first + 1 := by
      apply Nat.le_of_not_lt
      intro inside
      have starts := (firstStart?_eq_some.mp h.starts).1
      rw [startsAt_append _ _ _ (by omega)] at starts
      have unseen := List.find?_eq_none.mp start (first + 1) (List.mem_range.mpr (by omega))
      exact unseen starts
    refine ⟨rfl, fun full => ?_, fun long => by omega⟩
    cases full
  | some i =>
    obtain ⟨-, inside⟩ := Assembler.firstStart?_bounds start
    obtain rfl : i = first + 1 := by
      have same := ((firstStart?_append_iff more inside).mpr start).symm.trans h.starts
      exact Option.some.inj same
    have open_still : firstEnd? before (first + 1) = none := by
      cases ends : firstEnd? before (first + 1) with
      | none => rfl
      | some j =>
        have there := List.mem_range.mp (List.mem_of_find?_eq_some ends)
        have same := ((firstEnd?_append_iff more there).mpr ends).symm.trans h.ends
        cases same
        omega
    rw [Assembler.oneShot_gpser_open start open_still]
    refine ⟨rfl, ?_⟩
    simp only [Assembler.isFull, Wire.maxFrame, Nat.add_sub_cancel, List.length_take,
      List.length_drop, decide_eq_true_eq]
    omega

end UpsMonitor
