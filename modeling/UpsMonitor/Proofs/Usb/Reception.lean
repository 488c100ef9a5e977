import Mathlib.Data.Nat.Find
import UpsMonitor.Proofs.Frame.OneShot
import UpsMonitor.Usb.Transport

/-!
# Reception

Reading reports until a frame is complete is assembling the stream of their payloads, cut off by the
budget. Main statements:

* `receiveWithin_stops`, `receiveWithin_spent`: reading ends with the first report that decides it,
  or else with the budget;
* `receive_reassembles`: so the frame depends on the stream, and not on how reports carry it.
-/

namespace UpsMonitor.Transport

variable {σ : Type} [Device σ]

/-! ## What comes in -/

/-- The call that reads a report. -/
abbrev reading (settings : Settings) : Call := .read inEndpoint Report.size settings.timeout

/-- What a device gives when it is read again and again. -/
def outcomes (settings : Settings) (device : σ) : Nat → Except Fault Bytes
  | 0 => (Device.answer (reading settings) device).1
  | k + 1 => outcomes settings (Device.answer (reading settings) device).2 k

/-- What an outcome brings. A failure brings nothing. -/
def arrived : Except Fault Bytes → Bytes
  | .ok report => Report.payload report
  | .error _ => []

/-- The payloads of the first outcomes, one behind the other. -/
def stream (seen : Nat → Except Fault Bytes) (count : Nat) : Bytes :=
  (List.range count).flatMap fun k => arrived (seen k)

/-- The calls that make the first outcomes, the latest first. -/
def reads (settings : Settings) (seen : Nat → Except Fault Bytes) (count : Nat) : List Done :=
  ((List.range count).map fun k => ⟨reading settings, seen k⟩).reverse

/-- How reading ends with outcome `k`, if it does: at a failure, at a complete frame, or at a buffer
that is full. -/
def verdict? (settings : Settings) (asm : Assembler) (seen : Nat → Except Fault Bytes) (k : Nat) :
    Option (Except Fault Frame) :=
  match seen k with
  | .error fault => some (.error fault)
  | .ok _ =>
    let held := asm.feedAll (stream seen (k + 1))
    match held.take.1 with
    | some frame => some (.ok frame)
    | none => if held.isFull then some (.error (.timeout settings.maxReports)) else none

theorem stream_succ (seen : Nat → Except Fault Bytes) (count : Nat) :
    stream seen (count + 1) = arrived (seen 0) ++ stream (fun k => seen (k + 1)) count := by
  simp [stream, List.range_succ_eq_map, List.flatMap_map]

theorem reads_succ (settings : Settings) (seen : Nat → Except Fault Bytes) (count : Nat) :
    reads settings seen (count + 1) =
      reads settings (fun k => seen (k + 1)) count ++ [⟨reading settings, seen 0⟩] := by
  simp [reads, List.range_succ_eq_map]

theorem verdict?_succ (settings : Settings) (asm : Assembler) (seen : Nat → Except Fault Bytes)
    (k : Nat) : verdict? settings asm seen (k + 1) =
      verdict? settings (asm.feedAll (arrived (seen 0))) (fun k => seen (k + 1)) k := by
  simp only [verdict?, stream_succ seen (k + 1), Assembler.feedAll, List.foldl_append]
  rfl

/-! ## Reading report by report -/

/-- One read settles the matter, or is followed by a pause and the rest of the budget. -/
theorem receiveWithin_succ (settings : Settings) (budget : Nat) (asm : Assembler) (bus : Bus σ) :
    let seen := outcomes settings bus.device
    let read := (bus.call (reading settings)).2
    let got := receiveWithin settings (budget + 1) asm bus
    match verdict? settings asm seen 0 with
    | some verdict =>
      got.1 = verdict ∧ got.2.2 = read ∧
        ∀ frame, verdict = .ok frame → got.2.1 = (asm.feedAll (arrived (seen 0))).reset
    | none =>
      got = receiveWithin settings budget (asm.feedAll (arrived (seen 0)))
        (read.pause settings.readInterval) := by
  have first : stream (outcomes settings bus.device) 1 =
      arrived (outcomes settings bus.device 0) := by simp [stream]
  have read : bus.call (reading settings) =
      (outcomes settings bus.device 0, (bus.call (reading settings)).2) := rfl
  simp only [verdict?, first, receiveWithin]
  rw [read]
  cases outcome : outcomes settings bus.device 0 with
  | error fault => simp
  | ok report =>
    simp only [arrived, Assembler.take]
    cases held : (asm.feedAll (Report.payload report)).frame? with
    | some frame => simp
    | none => by_cases full : (asm.feedAll (Report.payload report)).isFull <;> simp [full]

/-- Reading ends with the first outcome that decides it. -/
theorem receiveWithin_stops {settings : Settings} {verdict : Except Fault Frame} {k budget : Nat}
    (asm : Assembler) (bus : Bus σ) (inside : k < budget)
    (stops : verdict? settings asm (outcomes settings bus.device) k = some verdict)
    (first : ∀ i, i < k → verdict? settings asm (outcomes settings bus.device) i = none) :
    let got := receiveWithin settings budget asm bus
    got.1 = verdict ∧
      got.2.2.calls = reads settings (outcomes settings bus.device) (k + 1) ++ bus.calls ∧
      ∀ frame, verdict = .ok frame → got.2.1 = asm.reset := by
  induction budget generalizing k asm bus with
  | zero => exact absurd inside (Nat.not_lt_zero k)
  | succ budget ih =>
    have step := receiveWithin_succ settings budget asm bus
    cases k with
    | zero =>
      simp only [stops] at step
      obtain ⟨outcome, after, taken⟩ := step
      refine ⟨outcome, ?_, fun frame ok => ?_⟩
      · rw [after, Bus.calls_call]
        rfl
      · rw [taken frame ok, Assembler.feedAll_reset]
    | succ k =>
      simp only [first 0 (Nat.succ_pos k)] at step
      rw [step, reads_succ, List.append_assoc]
      rw [verdict?_succ] at stops
      have rest := ih (asm.feedAll (arrived (outcomes settings bus.device 0)))
        ((bus.call (reading settings)).2.pause settings.readInterval) (by omega) stops
        (fun i before => (verdict?_succ _ _ _ _).symm.trans (first (i + 1) (by omega)))
      rwa [Assembler.feedAll_reset] at rest

/-- With no such outcome the whole budget is read. -/
theorem receiveWithin_spent {settings : Settings} {budget : Nat} (asm : Assembler) (bus : Bus σ)
    (undecided : ∀ k, k < budget → verdict? settings asm (outcomes settings bus.device) k = none) :
    let got := receiveWithin settings budget asm bus
    got.1 = .error (.timeout settings.maxReports) ∧
      got.2.2.calls = reads settings (outcomes settings bus.device) budget ++ bus.calls := by
  induction budget generalizing asm bus with
  | zero => exact ⟨rfl, rfl⟩
  | succ budget ih =>
    have step := receiveWithin_succ settings budget asm bus
    simp only [undecided 0 (Nat.succ_pos budget)] at step
    rw [step, reads_succ, List.append_assoc]
    exact ih (asm.feedAll (arrived (outcomes settings bus.device 0)))
      ((bus.call (reading settings)).2.pause settings.readInterval)
      (fun k inside => (verdict?_succ _ _ _ _).symm.trans (undecided (k + 1) (by omega)))

/-! ## The stream decides -/

theorem stream_mono (seen : Nat → Except Fault Bytes) {few many : Nat} (h : few ≤ many) :
    stream seen few <+: stream seen many := by
  obtain ⟨more, rfl⟩ := Nat.le.dest h
  simp only [stream, List.range_add, List.flatMap_append]
  exact List.prefix_append _ _

theorem verdict?_frame {settings : Settings} {asm : Assembler} {seen : Nat → Except Fault Bytes}
    {k : Nat} {frame : Frame} (h : verdict? settings asm seen k = some (.ok frame)) :
    (asm.feedAll (stream seen (k + 1))).frame? = some frame := by
  unfold verdict? at h
  split at h
  · cases h
  · simp only [Assembler.take] at h
    cases held : (asm.feedAll (stream seen (k + 1))).frame? with
    | some other =>
      rw [held] at h
      cases h
      rfl
    | none =>
      simp only [held] at h
      split at h <;> cases h

/-- Where a report came, a frame that is held is handed over. -/
theorem verdict?_of_frame {settings : Settings} {asm : Assembler}
    {seen : Nat → Except Fault Bytes} {k : Nat} {report : Bytes} {frame : Frame}
    (came : seen k = .ok report) (held : (asm.feedAll (stream seen (k + 1))).frame? = some frame) :
    verdict? settings asm seen k = some (.ok frame) := by
  simp only [verdict?, came, Assembler.take, held]

/-- Where a report came, only a full buffer gives up. -/
theorem verdict?_full {settings : Settings} {asm : Assembler} {seen : Nat → Except Fault Bytes}
    {k : Nat} {report : Bytes} {fault : Fault} (came : seen k = .ok report)
    (h : verdict? settings asm seen k = some (.error fault)) :
    (asm.feedAll (stream seen (k + 1))).isFull = true ∧ fault = .timeout settings.maxReports := by
  simp only [verdict?, came, Assembler.take] at h
  cases held : (asm.feedAll (stream seen (k + 1))).frame? with
  | some other =>
    rw [held] at h
    cases h
  | none =>
    simp only [held] at h
    split at h
    · next full =>
      cases h
      exact ⟨full, rfl⟩
    · cases h

/-- Where some outcome decides the matter there is a first that does. -/
theorem first_verdict {settings : Settings} {asm : Assembler} {seen : Nat → Except Fault Bytes}
    {last : Nat} (decided : verdict? settings asm seen last ≠ none) :
    ∃ k verdict, k ≤ last ∧ verdict? settings asm seen k = some verdict ∧
      ∀ i, i < k → verdict? settings asm seen i = none := by
  have some_decided : ∃ k, verdict? settings asm seen k ≠ none := ⟨last, decided⟩
  obtain ⟨verdict, stops⟩ := Option.ne_none_iff_exists'.mp (Nat.find_spec some_decided)
  refine ⟨Nat.find some_decided, verdict, Nat.find_min' some_decided decided, stops, ?_⟩
  intro i before
  exact Classical.not_not.mp (Nat.find_min some_decided before)

/-- Reports that bring a complete frame within the budget give this frame, unless it outgrew the
buffer. -/
theorem receive_of_stream {settings : Settings} {family : Family} {mode : CheckMode} {bus : Bus σ}
    {count : Nat} {frame : Frame} (inside : count ≤ settings.maxReports)
    (came : ∀ k, k < count → ∃ report, outcomes settings bus.device k = .ok report)
    (held : ((Assembler.empty family mode).feedAll
      (stream (outcomes settings bus.device) count)).frame? = some frame) :
    (receive settings (.empty family mode) bus).1 = .ok frame ∨
      ((receive settings (.empty family mode) bus).1 = .error (.timeout settings.maxReports) ∧
        frame.bytes.length = 512 ∧ 0x03 ∉ frame.bytes) := by
  cases count with
  | zero => cases held
  | succ last =>
    obtain ⟨report, ok⟩ := came last (Nat.lt_succ_self last)
    let seen := outcomes settings bus.device
    let asm := Assembler.empty family mode
    have decided : verdict? settings asm seen last ≠ none := by
      rw [verdict?_of_frame ok held]
      exact Option.some_ne_none _
    obtain ⟨k, verdict, bound, stops, first⟩ := first_verdict decided
    have within : k < settings.maxReports := by omega
    obtain ⟨outcome, -, -⟩ := receiveWithin_stops asm bus within stops first
    obtain ⟨rest, whole⟩ := stream_mono (outcomes settings bus.device) (Nat.succ_le_succ bound)
    rw [← whole] at held
    cases verdict with
    | ok found =>
      have same := verdict?_frame stops
      rw [Assembler.feedAll_append, Assembler.feedAll_complete same, same] at held
      cases held
      exact .inl outcome
    | error fault =>
      obtain ⟨report, ok⟩ := came k (by omega)
      obtain ⟨full, rfl⟩ := verdict?_full ok stops
      exact .inr ⟨outcome, Assembler.full_then_complete full held⟩

/-- **Receiving is reassembling the stream, within the budget.** Reading ends with the first report
that fails, completes the frame or fills the buffer, and what comes of it is what assembling the
payloads at once gives. So another device whose reports bring the same bytes gives the same frame,
or loses it when the frame outgrew the buffer. -/
theorem receive_reassembles (settings : Settings) (family : Family) (mode : CheckMode)
    (bus : Bus σ) :
    let asm := Assembler.empty family mode
    let seen := outcomes settings bus.device
    let got := receive settings asm bus
    (∀ k verdict, k < settings.maxReports → verdict? settings asm seen k = some verdict →
      (∀ i, i < k → verdict? settings asm seen i = none) →
      got.1 = verdict ∧ got.2.2.calls = reads settings seen (k + 1) ++ bus.calls ∧
      ∀ frame, verdict = .ok frame → got.2.1 = asm ∧
        ∀ (τ : Type) [Device τ] (other : Bus τ),
          (∀ i, i < settings.maxReports → ∃ report, outcomes settings other.device i = .ok report) →
          stream seen (k + 1) <+: stream (outcomes settings other.device) settings.maxReports →
          (receive settings asm other).1 = .ok frame ∨
            ((receive settings asm other).1 = .error (.timeout settings.maxReports) ∧
              frame.bytes.length = 512 ∧ 0x03 ∉ frame.bytes)) ∧
    ((∀ k, k < settings.maxReports → verdict? settings asm seen k = none) →
      got.1 = .error (.timeout settings.maxReports) ∧
      got.2.2.calls = reads settings seen settings.maxReports ++ bus.calls) := by
  intro asm seen got
  refine ⟨fun k verdict inside stops first => ?_, receiveWithin_spent asm bus⟩
  obtain ⟨outcome, calls, emptied⟩ := receiveWithin_stops asm bus inside stops first
  refine ⟨outcome, calls, fun frame ok => ⟨emptied frame ok, fun τ _ other came same => ?_⟩⟩
  subst ok
  obtain ⟨rest, whole⟩ := same
  apply receive_of_stream (Nat.le_refl _) came
  rw [← whole, Assembler.feedAll_append, Assembler.feedAll_complete (verdict?_frame stops)]
  exact verdict?_frame stops

end UpsMonitor.Transport
