import UpsMonitor.Proofs.Usb.Configuration

/-!
# Grave faults

Some faults make it unsafe to try again: a device that is claimed by someone else, or that may not
be used. Where a transfer meets one, the link gives up. Main statements:

* `Exchange.Of.grave_iff`: an exchange has such a transfer if its outcome is that fault;
* `Course.Ends.fatal_iff`: a command comes to a fatal fault by its last exchange only;
* `execute_reaches`, `Reaches.faults`: so a command is broken off by the transfer that met a grave
  fault, and by nothing else that is done over the handle.
-/

namespace UpsMonitor

/-- The device is claimed by someone else or may not be used, or the fault is a fatal one
already. -/
inductive Fault.IsGrave : Fault → Prop
  | busy (detail : String) : IsGrave (.usb .busy detail)
  | permissionDenied (detail : String) : IsGrave (.usb .permissionDenied detail)
  | fatal (detail : String) : IsGrave (.fatal detail)

/-- The link gives up on grave faults, and only on these. -/
theorem Fault.recovery_eq_fatal_iff {fault : Fault} : fault.recovery = .fatal ↔ fault.IsGrave := by
  constructor
  · intro gives_up
    cases fault with
    | usb kind detail =>
      cases kind with
      | busy => exact .busy detail
      | permissionDenied => exact .permissionDenied detail
      | _ => cases gives_up
    | fatal detail => exact .fatal detail
    | _ => cases gives_up
  · intro grave
    cases grave with
    | busy | permissionDenied | fatal => rfl

/-- A write or a read that met a grave fault. -/
inductive Grave (fault : Fault) : Done → Prop
  | write (endpoint : UInt8) (report : Bytes) (timeout : Nat) (grave : fault.IsGrave) :
      Grave fault ⟨.write endpoint report timeout, .error fault⟩
  | read (endpoint : UInt8) (length timeout : Nat) (grave : fault.IsGrave) :
      Grave fault ⟨.read endpoint length timeout, .error fault⟩

def Fault.fatalText : Fault → Option String
  | fatal text => some text
  | _ => none

/-- The text of a fatal fault, if that is what came of it. -/
def fatalText {α : Type} : Except Fault α → Option String
  | .error fault => fault.fatalText
  | .ok _ => none

theorem fatalText_eq_some {α : Type} {outcome : Except Fault α} {text : String} :
    fatalText outcome = some text ↔ outcome = .error (.fatal text) := by
  cases outcome with
  | ok value => simp [fatalText]
  | error fault => cases fault <;> simp [fatalText, Fault.fatalText]

theorem Fault.fatalText_of_soft {fault : Fault} (soft : fault.isFatal = false) :
    fault.fatalText = none := by
  cases fault with
  | fatal => cases soft
  | usb | timeout | nak | badChecksum | insufficient | protocol | deviceNotFound => rfl

/-- What breaks off a stretch of calls: a grave fault that some transfer met, or nothing. -/
structure Breaks (text : Option String) (done : List Done) : Prop where
  broken : ∀ entry ∈ done, ∀ fault, Grave fault entry → text = some fault.message
  grave : ∀ detail, text = some detail →
    ∃ entry ∈ done, ∃ fault, Grave fault entry ∧ detail = fault.message

namespace Breaks

variable {text : Option String} {done later : List Done}

theorem of_unharmed (unharmed : ∀ entry ∈ done, ∀ fault, ¬Grave fault entry) :
    Breaks none done where
  broken entry member fault grave := absurd grave (unharmed entry member fault)
  grave := nofun

/-- What goes on was not broken off. -/
theorem append (h : Breaks none done) (k : Breaks text later) : Breaks text (done ++ later) where
  broken entry member fault grave := by
    rcases List.mem_append.mp member with before | behind
    · cases h.broken entry before fault grave
    · exact k.broken entry behind fault grave
  grave detail broken := by
    obtain ⟨entry, member, met⟩ := k.grave detail broken
    exact ⟨entry, List.mem_append_right done member, met⟩

end Breaks

/-! ## Exchanges and courses -/

namespace Transport

variable {settings : Settings} {fault : Fault}

theorem exists_grave_writing {writes : List (Bytes × Except Fault Unit)} :
    (∃ entry ∈ writings settings writes, Grave fault entry) ↔
      fault.recovery = .fatal ∧ ∃ write ∈ writes, write.2 = .error fault := by
  constructor
  · rintro ⟨entry, member, grave⟩
    obtain ⟨⟨report, outcome⟩, inside, rfl⟩ := List.mem_map.mp member
    change Grave fault ⟨.write outEndpoint report settings.timeout, outcome⟩ at grave
    cases grave with
    | write _ _ _ grave => exact ⟨Fault.recovery_eq_fatal_iff.mpr grave, _, inside, rfl⟩
  · rintro ⟨gives_up, ⟨report, outcome⟩, inside, rfl⟩
    have grave := Fault.recovery_eq_fatal_iff.mp gives_up
    exact ⟨_, List.mem_map.mpr ⟨_, inside, rfl⟩, .write _ _ _ grave⟩

theorem exists_grave_reading {reads : List (Except Fault Bytes)} :
    (∃ entry ∈ readings settings reads, Grave fault entry) ↔
      fault.recovery = .fatal ∧ .error fault ∈ reads := by
  constructor
  · rintro ⟨entry, member, grave⟩
    obtain ⟨outcome, inside, rfl⟩ := List.mem_map.mp member
    change Grave fault ⟨.read inEndpoint Report.size settings.timeout, outcome⟩ at grave
    cases grave with
    | read _ _ _ grave => exact ⟨Fault.recovery_eq_fatal_iff.mpr grave, inside⟩
  · rintro ⟨gives_up, inside⟩
    have grave := Fault.recovery_eq_fatal_iff.mp gives_up
    exact ⟨_, List.mem_map.mpr ⟨_, inside, rfl⟩, .read _ _ _ grave⟩

/-- The one write that may fail is what comes of writing. -/
theorem Written.failed_iff {reports : List Bytes} {writes : List (Bytes × Except Fault Unit)}
    {outcome : Except Fault Unit} (h : Written reports writes outcome) :
    (∃ write ∈ writes, write.2 = .error fault) ↔ outcome = .error fault := by
  cases h with
  | whole =>
    refine ⟨fun ⟨write, member, failed⟩ => ?_, nofun⟩
    cases (ok_of_mem_sent member).symm.trans failed
  | cut before rest report other =>
    constructor
    · rintro ⟨write, member, failed⟩
      rcases List.mem_append.mp member with earlier | last
      · cases (ok_of_mem_sent earlier).symm.trans failed
      · rw [List.mem_singleton] at last
        rwa [last] at failed
    · intro failed
      exact ⟨(report, .error other), by simp, failed⟩

/-- A read that fails is the last, and what comes of reading. Giving up is not grave. -/
theorem Received.failed_iff {budget : Nat} {asm : Assembler} {reads : List (Except Fault Bytes)}
    {outcome : Except Fault Frame} (grave : fault.recovery = .fatal)
    (h : Received settings budget asm reads outcome) :
    .error fault ∈ reads ↔ outcome = .error fault := by
  cases h with
  | failed reports other => simp [eq_comm]
  | complete => simp
  | givenUp =>
    simp only [List.mem_map, reduceCtorEq, and_false, exists_false, false_iff, Except.error.injEq]
    rintro rfl
    cases grave

end Transport

section
variable {settings : Transport.Settings} {command : Command} {fault : Fault}

/-- **A transfer of an exchange meets a grave fault if that is its outcome.** -/
theorem Exchange.Of.grave_iff {ex : Exchange} (h : ex.Of settings command) :
    (∃ entry ∈ ex.calls settings, Grave fault entry) ↔
      fault.recovery = .fatal ∧ ex.outcome = .error fault := by
  simp only [calls, List.mem_append, or_and_right, exists_or, Transport.exists_grave_writing,
    Transport.exists_grave_reading, ← and_or_left]
  refine and_congr_right fun grave => ?_
  cases h with
  | refused =>
    simp only [List.not_mem_nil, false_and, exists_false, or_self, false_iff, Except.error.injEq]
    rintro rfl
    cases grave
  | unsent written => simpa using written.failed_iff
  | sent received =>
    rw [received.failed_iff grave]
    have none_failed : ¬∃ write ∈ Transport.sent (Report.ofBytes command.bytes),
        write.2 = .error fault := by
      rintro ⟨write, member, failed⟩
      cases (Transport.ok_of_mem_sent member).symm.trans failed
    simp [none_failed]

namespace Course

variable {retries : Nat} {course : Course} {result : Except Fault Frame} {connection : Connection}

/-- **A fatal fault is that of the last exchange.** -/
theorem Ends.fatal_iff (ends : course.Ends retries result connection) {text : String} :
    result = .error (.fatal text) ↔
      ∃ fault, fault.recovery = .fatal ∧ course.last.outcome = .error fault ∧
        text = fault.message := by
  unfold Ends at ends
  split at ends
  · next frame answered =>
    rw [ends.2.1, answered]
    simp
  · next fault failed =>
    have same : (∃ other : Fault, other.recovery = .fatal ∧ course.last.outcome = .error other ∧
        text = other.message) ↔ fault.recovery = .fatal ∧ text = fault.message := by
      simp [failed]
    rw [same]
    -- Where recovery is not to give up, the fault is passed on, and that is not a fatal one.
    have passed (soft : fault.recovery ≠ .fatal) (given : result = .error fault) :
        result = .error (.fatal text) ↔ fault.recovery = .fatal ∧ text = fault.message := by
      rw [given]
      refine ⟨fun fatal => ?_, fun ⟨grave, _⟩ => absurd grave soft⟩
      cases fatal
      exact absurd rfl soft
    split at ends
    · next grave =>
      rw [ends.2.1]
      simp [grave, eq_comm]
    · next treated => exact passed (by simp [treated]) ends.1
    · next treated => exact passed (by simp [treated]) ends.2.1
    · next treated => exact passed (by simp [treated]) ends.2.1
    · next treated => exact passed (by simp [treated]) ends.2.1

theorem Ends.closed_of_grave (ends : course.Ends retries result connection)
    (grave : fault.recovery = .fatal) (failed : course.last.outcome = .error fault) :
    result = .error (.fatal fault.message) ∧ connection = .closed := by
  simp only [Ends, failed, grave] at ends
  exact ends.2

/-- Only the last exchange of a course meets a grave fault. -/
theorem Of.grave_iff (of : course.Of settings command retries)
    (ends : course.Ends retries result connection) :
    (∃ entry ∈ course.calls settings, Grave fault entry) ↔
      fault.recovery = .fatal ∧ course.last.outcome = .error fault := by
  rw [← of.last.grave_iff]
  constructor
  · rintro ⟨entry, member, grave⟩
    simp only [calls, List.mem_append, List.mem_flatMap, List.mem_singleton] at member
    rcases member with (⟨ex, stalled, inside | rfl⟩ | inside) | behind
    · obtain ⟨detail, stall⟩ := of.stalls ex stalled
      obtain ⟨unsafe_again, failed⟩ := (of.exchanges ex stalled).grave_iff.mp ⟨entry, inside, grave⟩
      cases stall.symm.trans failed
      cases unsafe_again
    · cases grave
    · exact ⟨entry, inside, grave⟩
    · obtain ⟨call, outcome⟩ := entry
      rcases ends.recovery_bounds.2.2.2 _ behind with same | same
      · cases same
        cases grave
      · cases same
        cases grave
  · rintro ⟨entry, inside, grave⟩
    refine ⟨entry, ?_, grave⟩
    simp only [calls, List.mem_append]
    exact .inl (.inr inside)

theorem Of.breaks (of : course.Of settings command retries)
    (ends : course.Ends retries result connection) :
    Breaks (fatalText result) (course.calls settings) where
  broken entry member fault grave := by
    obtain ⟨unsafe_again, failed⟩ := (of.grave_iff ends).mp ⟨entry, member, grave⟩
    exact fatalText_eq_some.mpr (ends.closed_of_grave unsafe_again failed).1
  grave detail broken := by
    obtain ⟨fault, unsafe_again, failed, text⟩ := ends.fatal_iff.mp (fatalText_eq_some.mp broken)
    obtain ⟨entry, member, grave⟩ := (of.grave_iff ends).mpr ⟨unsafe_again, failed⟩
    exact ⟨entry, member, fault, grave, text⟩

end Course

end

/-! ## Links -/

namespace Link

variable {σ : Type}

/-- A stretch over a handle that is held. Nothing is opened in it, and `text` is that of the fatal
fault that breaks it off and has the link give up. -/
structure Uses (link after : Link σ) (text : Option String) (done : List Done) : Prop where
  calls : after.bus.calls = done.reverse ++ link.bus.calls
  unopened : callCount Call.isOpening done = 0
  breaks : Breaks text done
  closes : ∀ detail, text = some detail → after.connection = .closed

theorem Uses.refl (link : Link σ) : link.Uses link none [] where
  calls := rfl
  unopened := rfl
  breaks := .of_unharmed (by simp)
  closes := nofun

theorem Uses.trans {a b c : Link σ} {text : Option String} {done later : List Done}
    (h : a.Uses b none done) (k : b.Uses c text later) : a.Uses c text (done ++ later) where
  calls := by rw [k.calls, h.calls, List.reverse_append, List.append_assoc]
  unopened := by rw [callCount_append, h.unopened, k.unopened]
  breaks := h.breaks.append k.breaks
  closes := k.closes

variable [Device σ]

/-- How a stretch that needs the device goes about it: it cannot be opened, or its handle is
used. -/
inductive Reaches {α : Type} (link after : Link σ) (outcome : Except Fault α) : Prop
  | refused {fault : Fault} (failed : outcome = .error fault) (refused : link.Refused fault after)
  | used {ready : Link σ} {opening rest : List Done} (opens : link.Opening opening)
      (before : ready.bus.calls = opening.reverse ++ link.bus.calls)
      (uses : ready.Uses after (fatalText outcome) rest)

/-- Opening transfers nothing. -/
theorem Opening.unharmed {link : Link σ} {opening : List Done} (opens : link.Opening opening) :
    ∀ entry ∈ opening, ∀ fault, ¬Grave fault entry := by
  intro entry member fault grave
  cases opens with
  | held => cases member
  | anew device sent =>
    simp only [List.mem_cons, List.not_mem_nil, or_false] at member
    rcases member with rfl | rfl
    · cases grave
    · cases grave

/-- An open that came to a handle did not fail. -/
theorem Opening.succeeded {link : Link σ} {opening : List Done} (opens : link.Opening opening)
    {matcher : Matcher} {fault : Fault} : ⟨.opening matcher, .error fault⟩ ∉ opening := by
  intro member
  cases opens with
  | held => cases member
  | anew device sent =>
    simp only [List.mem_cons, List.not_mem_nil, or_false] at member
    rcases member with same | same
    · cases same
    · cases same

theorem attempt_uses (command : Command) (retries : Nat) {link : Link σ}
    (held : link.connection = .opened) :
    let got := attempt command retries link
    ∃ done, link.Uses got.2 (fatalText got.1) done := by
  intro got
  obtain ⟨course, of, ends, calls⟩ := attempt_course command retries held
  refine ⟨course.calls link.settings, calls, ?_, of.breaks ends, fun detail broken => ?_⟩
  · exact openings_of_transfers (Course.transfers ends link.settings)
  · obtain ⟨fault, grave, failed, -⟩ := ends.fatal_iff.mp (fatalText_eq_some.mp broken)
    exact (ends.closed_of_grave grave failed).2

theorem execute_of_held {link : Link σ} (held : link.connection = .opened) (command : Command) :
    link.execute command = attempt command 1 link := by
  simp [execute, ensureOpen, isOpen, held]

/-- **What breaks off a command.** -/
theorem execute_reaches (link : Link σ) (command : Command) :
    link.Reaches (link.execute command).2 (link.execute command).1 := by
  obtain ⟨fault, after, failed, refused⟩ | ⟨opening, ready, opened, opens, held, -, before⟩ :=
    link.ensureOpen_cases
  · have ends : link.execute command = (.error fault, after) := by simp only [execute, failed]
    rw [ends]
    exact .refused rfl refused
  · have goes_on : link.execute command = attempt command 1 ready := by
      simp only [execute, opened]
    obtain ⟨rest, uses⟩ := attempt_uses command 1 held
    rw [goes_on]
    exact .used opens before uses

/-- A stretch is broken off by a transfer that met a grave fault, and its failure to open the device
is passed on as it is. -/
theorem Reaches.faults {α : Type} {link after : Link σ} {outcome : Except Fault α}
    (reaches : link.Reaches after outcome) :
    ∃ done : List Done, after.bus.calls = done.reverse ++ link.bus.calls ∧
      (∀ entry ∈ done, ∀ fault, Grave fault entry →
        outcome = .error (.fatal fault.message) ∧ after.connection = .closed) ∧
      (∀ matcher fault, ⟨.opening matcher, .error fault⟩ ∈ done →
        outcome = .error fault ∧ after.connection = link.connection) ∧
      ∀ detail, outcome = .error (.fatal detail) →
        (∃ entry ∈ done, ∃ fault, Grave fault entry ∧ detail = fault.message) ∨
          ∃ matcher, ⟨.opening matcher, .error (.fatal detail)⟩ ∈ done := by
  cases reaches with
  | refused failed refused =>
    refine ⟨[_], refused.calls, ?_, ?_, ?_⟩
    · intro entry member other grave
      cases List.mem_singleton.mp member
      cases grave
    · intro matcher other member
      cases List.mem_singleton.mp member
      exact ⟨failed, refused.connection⟩
    · intro detail fatal
      cases failed.symm.trans fatal
      exact .inr ⟨link.matcher, List.mem_singleton_self _⟩
  | @used ready opening rest opens before uses =>
    refine ⟨opening ++ rest, ?_, ?_, ?_, ?_⟩
    · rw [uses.calls, before, List.reverse_append, List.append_assoc]
    · intro entry member fault grave
      rcases List.mem_append.mp member with early | late
      · exact absurd grave (opens.unharmed entry early fault)
      · have broken := uses.breaks.broken entry late fault grave
        exact ⟨fatalText_eq_some.mp broken, uses.closes _ broken⟩
    · intro matcher fault member
      rcases List.mem_append.mp member with early | late
      · exact absurd early opens.succeeded
      · have closed := List.countP_eq_zero.mp uses.unopened _ late
        exact absurd rfl closed
    · intro detail fatal
      obtain ⟨entry, member, met⟩ := uses.breaks.grave detail (fatalText_eq_some.mpr fatal)
      exact .inl ⟨entry, List.mem_append_right opening member, met⟩

end Link

end UpsMonitor
