import UpsMonitor.Proofs.Usb.Handles
import UpsMonitor.Proofs.Usb.Run

/-!
# Configuring the bridge

A handle that is opened is configured before it is used. Main statements:

* `perform_deeds`: an operation opens the device at its beginning if at all, and then configures it;
* `Configured.append`: what is done in order stays in order when stretches are joined;
* `run_configures_each_handle`: so in any run every handle is configured once, and at once.
-/

namespace UpsMonitor

def Call.isControl : Call → Bool
  | .control _ _ _ _ => true
  | _ => false

/-- The control write that configures the bridge, with its request, its value and its five bytes. -/
abbrev configuring (timeout : Nat) : Call :=
  .control 0x09 0x0300 [0xB0, 0x04, 0x00, 0x00, 0x03] timeout

/-- Whether a call is made on a handle that is there already and configured. -/
def Call.isTransfer (call : Call) : Bool := !call.isOpening && !call.isControl

theorem Call.isTransfer_iff {call : Call} :
    call.isTransfer = true ↔ call.isOpening = false ∧ call.isControl = false := by
  simp [isTransfer]

theorem openings_of_transfers {done : List Done}
    (transfers : ∀ entry ∈ done, entry.1.isTransfer = true) :
    callCount Call.isOpening done = 0 := by
  refine List.countP_eq_zero.mpr fun entry member => ?_
  simp [(Call.isTransfer_iff.mp (transfers entry member)).1]

/-- Every open that succeeds is followed at once by the configuration of the bridge, and a control
write is found nowhere else. Whether the write succeeds does not matter. -/
structure Configured (timeout : Nat) (done : List Done) : Prop where
  at_once : ∀ before after matcher unit, done = before ++ ⟨.opening matcher, .ok unit⟩ :: after →
    ∃ sent rest, after = ⟨configuring timeout, sent⟩ :: rest
  nowhere_else : ∀ before after call outcome, call.isControl = true →
    done = before ++ ⟨call, outcome⟩ :: after →
    call = configuring timeout ∧
      ∃ earlier matcher unit, before = earlier ++ [⟨.opening matcher, .ok unit⟩]
  /-- There are as many control writes as handles. -/
  once : callCount Call.isControl done = done.countP opensHandle

namespace Configured

variable {timeout : Nat} {done later : List Done}

/-- An entry of two lists in a row is in the one or in the other. -/
theorem split_append {before after : List Done} {entry : Done}
    (split : done ++ later = before ++ entry :: after) :
    (∃ rest, done = before ++ entry :: rest ∧ after = rest ++ later) ∨
      ∃ ahead, before = done ++ ahead ∧ later = ahead ++ entry :: after := by
  obtain ⟨ahead, behind, shape⟩ | ⟨rest, shape, behind⟩ := List.append_eq_append_iff.mp split
  · exact .inr ⟨ahead, behind, shape⟩
  · cases rest with
    | nil => exact .inr ⟨[], by simpa using shape.symm, behind.symm⟩
    | cons head rest =>
      obtain ⟨rfl, rfl⟩ := List.cons.inj behind
      exact .inl ⟨rest, shape, rfl⟩

theorem append (h : Configured timeout done) (k : Configured timeout later) :
    Configured timeout (done ++ later) where
  at_once before after matcher unit split := by
    obtain ⟨rest, shape, rfl⟩ | ⟨ahead, -, shape⟩ := split_append split
    · obtain ⟨sent, behind, rfl⟩ := h.at_once _ _ _ _ shape
      exact ⟨sent, behind ++ later, rfl⟩
    · exact k.at_once _ _ _ _ shape
  nowhere_else before after call outcome control split := by
    obtain ⟨rest, shape, -⟩ | ⟨ahead, rfl, shape⟩ := split_append split
    · exact h.nowhere_else _ _ _ _ control shape
    · obtain ⟨same, earlier, matcher, unit, rfl⟩ := k.nowhere_else _ _ _ _ control shape
      exact ⟨same, done ++ earlier, matcher, unit, (List.append_assoc ..).symm⟩
  once := by
    rw [callCount_append, List.countP_append, h.once, k.once]

/-- Without an open and a control write there is nothing to keep in order. -/
theorem of_transfers (transfers : ∀ entry ∈ done, entry.1.isTransfer = true) :
    Configured timeout done where
  at_once before after matcher unit shape := by
    have here := transfers ⟨.opening matcher, .ok unit⟩ (by simp [shape])
    cases here
  nowhere_else before after call outcome control shape := by
    have here := transfers ⟨call, outcome⟩ (by simp [shape])
    have none_sent := (Call.isTransfer_iff.mp here).2
    rw [control] at none_sent
    cases none_sent
  once := by
    have no_control : callCount Call.isControl done = 0 := by
      refine List.countP_eq_zero.mpr fun entry member => ?_
      simp [(Call.isTransfer_iff.mp (transfers entry member)).2]
    have no_opening := openings_of_transfers transfers
    have most := countP_opensHandle_le done
    omega

/-- An open that fails is followed by nothing. -/
theorem of_refused (timeout : Nat) (matcher : Matcher) (fault : Fault) :
    Configured timeout [⟨.opening matcher, .error fault⟩] where
  at_once before after _ _ shape := by
    cases before with
    | nil => cases shape
    | cons => simp at shape
  nowhere_else before after call outcome control shape := by
    cases before with
    | nil =>
      cases shape
      cases control
    | cons => simp at shape
  once := rfl

theorem of_opened (timeout : Nat) (matcher : Matcher) (unit : Identity)
    (sent : Except Fault Unit) :
    Configured timeout [⟨.opening matcher, .ok unit⟩, ⟨configuring timeout, sent⟩] where
  at_once before after _ _ shape := by
    match before with
    | [] =>
      cases shape
      exact ⟨sent, [], rfl⟩
    | [_] => cases shape
    | _ :: _ :: _ => simp at shape
  nowhere_else before after call outcome control shape := by
    match before with
    | [] =>
      cases shape
      cases control
    | [_] =>
      cases shape
      exact ⟨rfl, [], matcher, unit, rfl⟩
    | _ :: _ :: _ => simp at shape
  once := rfl

end Configured

/-- Exchanges and recovery neither open nor configure anything. -/
theorem Course.transfers {course : Course} {retries : Nat} {result : Except Fault Frame}
    {connection : Connection} (ends : course.Ends retries result connection)
    (settings : Transport.Settings) :
    ∀ entry ∈ course.calls settings, entry.1.isTransfer = true := by
  have exchanged (ex : Exchange) : ∀ entry ∈ ex.calls settings, entry.1.isTransfer = true := by
    intro entry member
    rcases List.mem_append.mp member with written | read
    · obtain ⟨write, -, rfl⟩ := List.mem_map.mp written
      rfl
    · obtain ⟨outcome, -, rfl⟩ := List.mem_map.mp read
      rfl
  intro entry member
  simp only [calls, List.mem_append, List.mem_flatMap, List.mem_singleton] at member
  rcases member with (⟨ex, -, inside | rfl⟩ | inside) | behind
  · exact exchanged ex entry inside
  · rfl
  · exact exchanged course.last entry inside
  · rcases ends.recovery_bounds.2.2.2 entry behind with same | same
    · rw [same]
      rfl
    · rw [same]
      rfl

namespace Link

variable {σ : Type} [Device σ]

/-- What an operation may ask of the device. It is opened only if no handle is held, and without a
handle nothing is transferred. -/
inductive Deeds (link : Link σ) : List Done → Prop
  | none : Deeds link []
  | refused (fault : Fault) (down : link.connection ≠ .opened) :
      Deeds link [⟨.opening link.matcher, .error fault⟩]
  | behind {opening rest : List Done} (opens : link.Opening opening)
      (transfers : ∀ entry ∈ rest, entry.1.isTransfer = true) : Deeds link (opening ++ rest)

theorem ensureOpen_deeds (link : Link σ) :
    ∃ done, link.ensureOpen.2.bus.calls = done.reverse ++ link.bus.calls ∧ link.Deeds done := by
  obtain ⟨fault, after, failed, refused⟩ | ⟨opening, after, opened, opens, -, -, calls⟩ :=
    link.ensureOpen_cases
  · rw [failed]
    exact ⟨[⟨.opening link.matcher, .error fault⟩], refused.calls, .refused fault refused.down⟩
  · rw [opened]
    refine ⟨opening ++ [], by simpa using calls, .behind opens (by simp)⟩

theorem execute_deeds (link : Link σ) (command : Command) :
    ∃ done, (link.execute command).2.bus.calls = done.reverse ++ link.bus.calls ∧
      link.Deeds done := by
  obtain ⟨fault, -, refused⟩ | ⟨opening, course, opens, -, ends, calls⟩ :=
    link.execute_cases command
  · exact ⟨[⟨.opening link.matcher, .error fault⟩], refused.calls, .refused fault refused.down⟩
  · exact ⟨_, calls, .behind opens (Course.transfers ends link.settings)⟩

/-- **What an operation asks of the device.** -/
theorem perform_deeds (operation : Operation) (link : Link σ) :
    ∃ done, (operation.perform link).bus.calls = done.reverse ++ link.bus.calls ∧
      link.Deeds done := by
  cases operation with
  | ensureOpen => exact link.ensureOpen_deeds
  | execute command => exact link.execute_deeds command
  | close => exact ⟨[], rfl, .none⟩
  | takeReopened => exact ⟨[], rfl, .none⟩

theorem perform_settings (operation : Operation) (link : Link σ) :
    (operation.perform link).settings = link.settings := by
  have opened (link : Link σ) : link.ensureOpen.2.settings = link.settings := by
    fun_cases ensureOpen link with
    | case1 | case2 | case3 => rfl
  cases operation with
  | ensureOpen => exact opened link
  | close => rfl
  | takeReopened => rfl
  | execute command =>
    have before := opened link
    change (link.execute command).2.settings = link.settings
    fun_cases execute link command with
    | case1 fault after refused => rwa [refused] at before
    | case2 _ ready found =>
      obtain ⟨assembler, bus, connection, kept⟩ := attempt_keeps command 1 ready
      rw [kept]
      rwa [found] at before

section
variable {link : Link σ} {done : List Done}

theorem Deeds.configured (h : link.Deeds done) : Configured link.settings.timeout done := by
  cases h with
  | none => exact .of_transfers (by simp)
  | refused fault => exact .of_refused _ _ fault
  | behind opens transfers =>
    apply Configured.append
    · cases opens with
      | held => exact .of_transfers (by simp)
      | anew device sent => exact .of_opened _ _ device sent
    · exact .of_transfers transfers

/-- A device is opened once at most, and not at all while a handle is held. -/
theorem Deeds.openings (h : link.Deeds done) :
    callCount Call.isOpening done ≤ if link.connection = .opened then 0 else 1 := by
  cases h with
  | none => exact Nat.zero_le _
  | refused fault down => simp [down, callCount, Call.isOpening]
  | @behind opening rest opens transfers =>
    rw [callCount_append, openings_of_transfers transfers]
    cases opens with
    | held held => exact Nat.zero_le _
    | anew device sent down => simp [down, callCount, Call.isOpening]

end

/-! ## Runs -/

theorem run_settings {first link : Link σ} (run : first.Run link) :
    link.settings = first.settings := by
  induction run with
  | start => rfl
  | step run operation ih => exact (perform_settings operation _).trans ih
  | meddled run device ih => exact ih

theorem run_configured {first link : Link σ} (run : first.Run link) :
    ∃ done, link.bus.calls = done.reverse ++ first.bus.calls ∧
      Configured first.settings.timeout done := by
  induction run with
  | start => exact ⟨[], rfl, .of_transfers (by simp)⟩
  | meddled run device ih => exact ih
  | @step link run operation ih =>
    obtain ⟨done, before, configured⟩ := ih
    obtain ⟨later, behind, deeds⟩ := perform_deeds operation link
    refine ⟨done ++ later, ?_, ?_⟩
    · rw [behind, before, List.reverse_append, List.append_assoc]
    · have last := deeds.configured
      rw [run_settings run] at last
      exact configured.append last

/-- **Every handle is configured once, and at once.** In any run each open that succeeds is followed
by the configuration of the bridge before anything else is done, and no other control write ever
happens, so none behind an open that fails. While a handle is held no operation tries to open
another. -/
theorem run_configures_each_handle {first link : Link σ} (run : first.Run link) :
    (∃ done, link.bus.calls = done.reverse ++ first.bus.calls ∧
      Configured first.settings.timeout done ∧
      ∀ before matcher fault next after,
        done = before ++ ⟨.opening matcher, .error fault⟩ :: next :: after →
        next.1.isControl = false) ∧
    ∀ operation : Operation, ∃ done,
      (operation.perform link).bus.calls = done.reverse ++ link.bus.calls ∧ link.Deeds done ∧
      callCount Call.isOpening done ≤ if link.connection = .opened then 0 else 1 := by
  constructor
  · obtain ⟨done, calls, configured⟩ := run_configured run
    refine ⟨done, calls, configured, fun before matcher fault next after shape => ?_⟩
    by_contra control
    have shape : done =
        (before ++ [⟨.opening matcher, .error fault⟩]) ++ ⟨next.1, next.2⟩ :: after := by
      simpa using shape
    obtain ⟨-, earlier, other, unit, same⟩ :=
      configured.nowhere_else _ _ _ _ (by simpa using control) shape
    -- What stands directly before a control write is an open that succeeded.
    have last := (List.append_inj' same rfl).2
    cases last
  · intro operation
    obtain ⟨done, calls, deeds⟩ := perform_deeds operation link
    exact ⟨done, calls, deeds, deeds.openings⟩

/-- The first open fails. The second is followed by a configuration that the device refuses, and the
handle is used and lost all the same; so is the third, by one that succeeds. -/
theorem configured_behind_each_open :
    let lost : Except Fault Bytes := .error (.usb .noDevice "gone")
    let device : Bench :=
      { reads := [lost], openFailures := [.usb .busy "claimed"], controlFailure := some .nak }
    let first : Link Bench := { bus := { device }, matcher := ⟨0x04B4, 0x5500, none, none⟩ }
    let identify : Operation := .execute (GpserCommand.identify.encode .sum)
    let refused := identify.perform first
    let failed := identify.perform refused
    let link := Operation.ensureOpen.perform (failed.withDevice {})
    first.Run link ∧ refused.connection = .closed ∧ failed.connection = .reconnecting ∧
      link.bus.calls.countP opensHandle = 2 ∧ callCount Call.isOpening link.bus.calls = 3 ∧
      callCount Call.isControl link.bus.calls = 2 ∧
      ∃ done, link.bus.calls = done.reverse ++ first.bus.calls ∧
        Configured first.settings.timeout done := by
  intro lost device first identify refused failed link
  have run : first.Run link := .step (.meddled (.step (.step .start _) _) _) _
  obtain ⟨⟨done, calls, configured, -⟩, -⟩ := run_configures_each_handle run
  refine ⟨run, by decide +kernel, by decide +kernel, by decide +kernel, by decide +kernel,
    by decide +kernel, done, calls, configured⟩

end Link

end UpsMonitor
