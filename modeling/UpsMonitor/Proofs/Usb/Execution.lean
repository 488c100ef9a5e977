import Mathlib.Algebra.Order.BigOperators.Group.List
import Mathlib.Algebra.Order.Ring.Nat
import UpsMonitor.Command.Gpser
import UpsMonitor.Proofs.Usb.Course
import UpsMonitor.Usb.Bench

/-!
# What a command comes to

Main statements:

* `execute_settles`: what a command gives and in which state it leaves the link, by the fault of its
  last exchange;
* `execute_retries_once`: a command is tried again once at most, behind a stall whose halt was
  cleared, and its attempts do not mix.
-/

namespace UpsMonitor

/-! ## Counting calls -/

def Call.isRead : Call → Bool
  | .read _ _ _ => true
  | _ => false

def Call.isClearHalt : Call → Bool
  | .clearHalt _ => true
  | _ => false

def Call.isReset : Call → Bool
  | .reset => true
  | _ => false

/-- How many of the calls are of a kind. -/
def callCount (kind : Call → Bool) (calls : List Done) : Nat :=
  calls.countP fun done => kind done.1

theorem callCount_append (kind : Call → Bool) (before after : List Done) :
    callCount kind (before ++ after) = callCount kind before + callCount kind after :=
  List.countP_append

theorem Exchange.callCount_reads (settings : Transport.Settings) (ex : Exchange) :
    callCount Call.isRead (ex.calls settings) = ex.reads.length := by
  rw [calls, callCount_append]
  simp [callCount, Transport.writings, Transport.readings, List.countP_map, Function.comp_def,
    Call.isRead]

/-- An exchange writes and reads, and nothing else. -/
theorem Exchange.callCount_others {kind : Call → Bool} (settings : Transport.Settings)
    (ex : Exchange)
    (no_write : ∀ endpoint report timeout, kind (.write endpoint report timeout) = false)
    (no_read : ∀ endpoint length timeout, kind (.read endpoint length timeout) = false) :
    callCount kind (ex.calls settings) = 0 := by
  rw [calls, callCount_append]
  simp [callCount, Transport.writings, Transport.readings, List.countP_map, Function.comp_def,
    no_write, no_read]

namespace Course

theorem callCount_calls (kind : Call → Bool) (settings : Transport.Settings) (course : Course) :
    callCount kind (course.calls settings) =
      (course.stalled.map fun ex =>
        callCount kind (ex.calls settings) + callCount kind [cleared]).sum +
        callCount kind (course.last.calls settings) + callCount kind course.recovery := by
  have stalls : callCount kind
      (course.stalled.flatMap fun ex => ex.calls settings ++ [cleared]) =
      (course.stalled.map fun ex =>
        callCount kind (ex.calls settings) + callCount kind [cleared]).sum := by
    rw [callCount, List.countP_flatMap]
    simp only [Function.comp_def, List.countP_append]
    rfl
  rw [calls, callCount_append, callCount_append, stalls]

section
variable {settings : Transport.Settings} {command : Command} {retries : Nat} {course : Course}
  {result : Except Fault Frame} {connection : Connection}

/-- Recovery clears a halt, resets the device, or does the one behind the other. -/
theorem Ends.recovery_calls (h : course.Ends retries result connection) :
    course.recovery = [] ∨ course.recovery = [cleared] ∨
      (∃ reset, course.recovery = [⟨.reset, reset⟩]) ∨
      ∃ refusal reset, course.recovery = [⟨clearing, .error refusal⟩, ⟨.reset, reset⟩] := by
  unfold Ends at h
  split at h
  · exact .inl h.1
  · split at h
    · exact .inl h.1
    · obtain ⟨-, ⟨refusal, reset, calls, -⟩ | ⟨calls, -⟩⟩ := h
      · exact .inr (.inr (.inr ⟨refusal, reset, calls⟩))
      · exact .inr (.inl calls)
    · exact .inr (.inr (.inl h.1))
    · exact .inl h.1
    · exact .inl h.1

/-- Only the frame of the last exchange is ever given. -/
theorem Ends.answered {frame : Frame} (h : course.Ends retries (.ok frame) connection) :
    course.last.outcome = .ok frame ∧ connection = .opened := by
  unfold Ends at h
  split at h
  · next other answered =>
    obtain ⟨-, same, state⟩ := h
    cases same
    exact ⟨answered, state⟩
  · split at h
    · cases h.2.1
    · cases h.1
    · cases h.2.1
    · cases h.2.1
    · cases h.2.1

theorem Ends.recovery_bounds (h : course.Ends retries result connection) :
    callCount Call.isRead course.recovery = 0 ∧ callCount Call.isClearHalt course.recovery ≤ 1 ∧
      callCount Call.isReset course.recovery ≤ 1 ∧
      ∀ done ∈ course.recovery, done.1 = clearing ∨ done.1 = .reset := by
  rcases h.recovery_calls with calls | calls | ⟨reset, calls⟩ | ⟨refusal, reset, calls⟩
  all_goals
    rw [calls]
    simp [callCount, cleared, Call.isRead, Call.isClearHalt, Call.isReset]

/-- Only recovery resets the device. -/
theorem resets_calls (settings : Transport.Settings) (course : Course) :
    callCount Call.isReset (course.calls settings) = callCount Call.isReset course.recovery := by
  have no_reset (ex : Exchange) : callCount Call.isReset (ex.calls settings) = 0 :=
    ex.callCount_others settings (fun _ _ _ => rfl) (fun _ _ _ => rfl)
  have clears : callCount Call.isReset [cleared] = 0 := rfl
  simp [callCount_calls, no_reset, clears]

theorem clears_calls (settings : Transport.Settings) (course : Course) :
    callCount Call.isClearHalt (course.calls settings) =
      course.stalled.length + callCount Call.isClearHalt course.recovery := by
  have no_clear (ex : Exchange) : callCount Call.isClearHalt (ex.calls settings) = 0 :=
    ex.callCount_others settings (fun _ _ _ => rfl) (fun _ _ _ => rfl)
  have clears : callCount Call.isClearHalt [cleared] = 1 := rfl
  simp [callCount_calls, no_clear, clears]

theorem Of.reads_calls (h : course.Of settings command retries)
    (none_behind : callCount Call.isRead course.recovery = 0) :
    callCount Call.isRead (course.calls settings) ≤ (retries + 1) * settings.maxReports := by
  have clears : callCount Call.isRead [cleared] = 0 := rfl
  have last := h.last.orderly.budget
  have stalled : (course.stalled.map fun ex => ex.reads.length).sum ≤
      course.stalled.length * settings.maxReports := by
    have each : ∀ count ∈ course.stalled.map (fun ex => ex.reads.length),
        count ≤ settings.maxReports := by
      intro count member
      obtain ⟨ex, inside, rfl⟩ := List.mem_map.mp member
      exact (h.exchanges ex inside).orderly.budget
    simpa using List.sum_le_card_nsmul _ _ each
  have most := Nat.mul_le_mul_right settings.maxReports h.bounded
  simp only [callCount_calls, Exchange.callCount_reads, clears, none_behind, Nat.add_zero]
  rw [Nat.add_one_mul]
  omega

end

end Course

/-! ## Outcome and connection -/

/-- What a command gives, and what is done behind its last exchange, by the fault of this exchange.
`resets` counts the resets of the device. -/
def Course.Settled (course : Course) (resets : Nat) (fault : Fault) (result : Except Fault Frame)
    (connection : Connection) : Prop :=
  match fault with
  | .usb .busy _ | .usb .permissionDenied _ | .fatal _ =>
    course.recovery = [] ∧ result = .error (.fatal fault.message) ∧ connection = .closed
  | .usb .timerExpired _ =>
    (∃ reset, course.recovery = [⟨.reset, reset⟩]) ∧ resets = 1 ∧ result = .error fault ∧
      connection = .reconnecting
  | .usb .noDevice _ | .usb .accessDenied _ | .usb .io _ | .usb .noSuchAddress _
  | .usb .notFound _ =>
    course.recovery = [] ∧ resets = 0 ∧ result = .error fault ∧ connection = .reconnecting
  | .usb .stall _ =>
    result = .error fault ∧
      ((∃ refusal reset, course.recovery = [⟨clearing, .error refusal⟩, ⟨.reset, reset⟩] ∧
          resets = 1 ∧ connection = .reconnecting) ∨
        (course.recovery = [cleared] ∧ course.stalled.length = 1 ∧ connection = .opened))
  | _ => course.recovery = [] ∧ result = .error fault ∧ connection = .opened

theorem Course.Ends.settled {course : Course} {result : Except Fault Frame}
    {connection : Connection} {fault : Fault} (h : course.Ends 1 result connection)
    (failed : course.last.outcome = .error fault) :
    course.Settled (callCount Call.isReset course.recovery) fault result connection := by
  simp only [Ends, failed] at h
  cases fault with
  | usb kind detail =>
    cases kind with
    | busy | permissionDenied => exact h
    | timerExpired =>
      obtain ⟨⟨reset, calls⟩, rest⟩ := h
      exact ⟨⟨reset, calls⟩, by rw [calls]; rfl, rest⟩
    | noDevice | accessDenied | io | noSuchAddress | notFound =>
      obtain ⟨calls, rest⟩ := h
      exact ⟨calls, by rw [calls]; rfl, rest⟩
    | stall =>
      obtain ⟨got, ⟨refusal, reset, calls, state⟩ | kept⟩ := h
      · exact ⟨got, .inl ⟨refusal, reset, calls, by rw [calls]; rfl, state⟩⟩
      · exact ⟨got, .inr kept⟩
    | timedOut | overflow | protocol | cancelled | invalidInput => exact h
  | fatal | timeout | nak | badChecksum | insufficient | protocol | deviceNotFound => exact h

namespace Link

variable {σ : Type} [Device σ]

/-- Opening reads nothing and recovers nothing. -/
theorem Opening.callCount {link : Link σ} {opening : List Done} (h : link.Opening opening) :
    callCount Call.isRead opening = 0 ∧ callCount Call.isClearHalt opening = 0 ∧
      callCount Call.isReset opening = 0 := by
  cases h with
  | held | anew => exact ⟨rfl, rfl, rfl⟩

/-- **What a command comes to.** With a frame the handle is kept. A failed opening changes nothing.
Otherwise the last exchange decides: what its fault is tells what the command gives, whether the
device is reset, and what becomes of the handle. -/
theorem execute_settles (link : Link σ) (command : Command) :
    let opened := (link.bus.call (.opening link.matcher)).1
    let got := link.execute command
    (∀ frame, got.1 = .ok frame → got.2.connection = .opened) ∧
    (∀ fault, link.connection ≠ .opened → opened = .error fault →
      got.1 = .error fault ∧ got.2.connection = link.connection ∧
        got.2.matcher = link.matcher ∧ got.2.reopened = link.reopened ∧
        got.2.bus.calls = ⟨.opening link.matcher, .error fault⟩ :: link.bus.calls) ∧
    (link.connection = .opened ∨ (∃ device, opened = .ok device) →
      ∃ (opening : List Done) (course : Course),
        link.Opening opening ∧ course.Of link.settings command 1 ∧
        got.2.bus.calls = (opening ++ course.calls link.settings).reverse ++ link.bus.calls ∧
        (∀ frame, course.last.outcome = .ok frame → course.recovery = [] ∧ got.1 = .ok frame) ∧
        ∀ fault, course.last.outcome = .error fault →
          course.Settled (callCount Call.isReset (opening ++ course.calls link.settings)) fault
            got.1 got.2.connection) := by
  intro opened got
  obtain ⟨fault, failed, refused⟩ | ⟨opening, course, opens, of, ends, calls⟩ :=
    link.execute_cases command
  · have not_opened : opened = .error fault := refused.refused
    refine ⟨fun frame answered => ?_, fun other _ same => ?_, ?_⟩
    · cases failed.symm.trans answered
    · cases not_opened.symm.trans same
      exact ⟨failed, refused.connection, refused.matcher, refused.reopened, refused.calls⟩
    · rintro (held | ⟨device, found⟩)
      · exact absurd held refused.down
      · cases not_opened.symm.trans found
  · have resets : callCount Call.isReset (opening ++ course.calls link.settings) =
        callCount Call.isReset course.recovery := by
      rw [callCount_append, opens.callCount.2.2, Nat.zero_add, Course.resets_calls]
    refine ⟨fun frame answered => ?_, fun fault down not_opened => ?_, fun _ => ?_⟩
    · exact (answered ▸ ends).answered.2
    · cases opens with
      | held held => exact absurd held down
      | anew device _ _ found => cases not_opened.symm.trans found
    · refine ⟨opening, course, opens, of, calls, fun frame answered => ?_, fun fault failed => ?_⟩
      · simp only [Course.Ends, answered] at ends
        exact ⟨ends.1, ends.2.1⟩
      · rw [resets]
        exact ends.settled failed

/-- **A command is tried again once at most.** It goes out a second time only behind a stall whose
halt was cleared, the number of calls is bounded, and each attempt keeps to the order of writing and
reading. A frame comes from the bytes of the last attempt alone. -/
theorem execute_retries_once (link : Link σ) (command : Command) :
    let got := link.execute command
    ∃ done, got.2.bus.calls = done.reverse ++ link.bus.calls ∧
      callCount Call.isRead done ≤ 2 * link.settings.maxReports ∧
      callCount Call.isClearHalt done ≤ 2 ∧ callCount Call.isReset done ≤ 1 ∧
      ((∃ fault, done = [⟨.opening link.matcher, .error fault⟩] ∧ got.1 = .error fault) ∨
        ∃ (opening : List Done) (course : Course), link.Opening opening ∧
          done = opening ++ course.calls link.settings ∧
          course.stalled.length ≤ 1 ∧
          (∀ ex ∈ course.stalled, ∃ detail, ex.outcome = .error (.usb .stall detail)) ∧
          (∀ ex ∈ course.stalled ++ [course.last],
            ex.Of link.settings command ∧ ex.Orderly link.settings command) ∧
          (∀ call ∈ course.recovery, call.1 = Course.clearing ∨ call.1 = .reset) ∧
          ∀ frame, got.1 = .ok frame →
            course.last.outcome = .ok frame ∧ frame.bytes <:+: course.last.incoming) := by
  intro got
  obtain ⟨fault, failed, refused⟩ | ⟨opening, course, opens, of, ends, calls⟩ :=
    link.execute_cases command
  · refine ⟨[⟨.opening link.matcher, .error fault⟩], refused.calls, ?_, ?_, ?_, ?_⟩
    · exact Nat.zero_le _
    · exact Nat.zero_le _
    · exact Nat.zero_le _
    · exact .inl ⟨fault, rfl, failed⟩
  · obtain ⟨no_reads, no_clears, no_resets⟩ := opens.callCount
    obtain ⟨none_read, clears, resets, recovers⟩ := ends.recovery_bounds
    have bounded := of.bounded
    refine ⟨opening ++ course.calls link.settings, calls, ?_, ?_, ?_, .inr ?_⟩
    · rw [callCount_append, no_reads, Nat.zero_add]
      exact of.reads_calls none_read
    · rw [callCount_append, no_clears, Course.clears_calls]
      omega
    · rw [callCount_append, no_resets, Course.resets_calls]
      omega
    · refine ⟨opening, course, opens, rfl, bounded, of.stalls, fun ex member => ?_, recovers,
        fun frame answered => ?_⟩
      · have proper : ex.Of link.settings command := by
          rcases List.mem_append.mp member with earlier | last
          · exact of.exchanges ex earlier
          · exact List.mem_singleton.mp last ▸ of.last
        exact ⟨proper, proper.orderly⟩
      · have last := (answered ▸ ends).answered.1
        exact ⟨last, of.last.frame_infix last⟩

/-- Two stalls in a row: both halts are cleared, nothing goes out a third time, and the handle is
kept. -/
example :
    let stall : Except Fault Bytes := .error (.usb .stall "halted")
    let link : Link Bench :=
      { bus := { device := { reads := [stall, stall] } }, matcher := ⟨0x04B4, 0x5500, none, none⟩ }
    let got := link.execute (GpserCommand.identify.encode .sum)
    got.1.toOption = none ∧ got.2.connection = .opened ∧ callCount Call.isRead got.2.bus.calls = 2 ∧
      callCount Call.isClearHalt got.2.bus.calls = 2 ∧ got.2.bus.calls.length = 10 := by
  decide +kernel

end Link

end UpsMonitor
