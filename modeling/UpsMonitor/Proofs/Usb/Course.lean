import UpsMonitor.Proofs.Usb.Exchange

/-!
# The course of a command

How a link carries out a command: exchanges that stall and are tried again, one that ends the
matter, and what is done about its failure. Main statements:

* `attempt_course`: an open link takes one of the courses there can be;
* `execute_cases`: so does any link that can be opened.
-/

namespace UpsMonitor

/-- Only a stall is worth another try. -/
theorem Fault.stall_of_clearAndRetry {fault : Fault} (h : fault.recovery = .clearAndRetry) :
    ∃ detail, fault = .usb .stall detail := by
  cases fault with
  | usb kind detail =>
    cases kind with
    | stall => exact ⟨detail, rfl⟩
    | _ => cases h
  | _ => cases h

/-- How a command is carried out on an open link. -/
structure Course where
  /-- The exchanges that stalled and were tried again. -/
  stalled : List Exchange
  last : Exchange
  /-- The calls behind the last exchange. -/
  recovery : List Done

namespace Course

/-- The call that clears the halt of a stalled endpoint. -/
abbrev clearing : Call := .clearHalt Transport.inEndpoint

/-- The halt was cleared. -/
def cleared : Done := ⟨clearing, .ok ()⟩

/-- The calls of a course, in order. Behind every exchange that is tried again its halt is
cleared. -/
def calls (settings : Transport.Settings) (course : Course) : List Done :=
  course.stalled.flatMap (fun ex => ex.calls settings ++ [cleared]) ++
    course.last.calls settings ++ course.recovery

/-- What a course of a command can be, with so many retries. -/
structure Of (settings : Transport.Settings) (command : Command) (retries : Nat)
    (course : Course) : Prop where
  exchanges : ∀ ex ∈ course.stalled, ex.Of settings command
  stalls : ∀ ex ∈ course.stalled, ∃ detail, ex.outcome = .error (.usb .stall detail)
  bounded : course.stalled.length ≤ retries
  last : course.last.Of settings command

/-- What the last exchange of a course leads to. -/
def Ends (retries : Nat) (course : Course) (result : Except Fault Frame)
    (connection : Connection) : Prop :=
  match course.last.outcome with
  | .ok frame => course.recovery = [] ∧ result = .ok frame ∧ connection = .opened
  | .error fault =>
    match fault.recovery with
    | .fatal =>
      course.recovery = [] ∧ result = .error (.fatal fault.message) ∧ connection = .closed
    | .clearAndRetry =>
      result = .error fault ∧
        ((∃ refusal reset, course.recovery = [⟨clearing, .error refusal⟩, ⟨.reset, reset⟩] ∧
            connection = .reconnecting) ∨
          (course.recovery = [cleared] ∧ course.stalled.length = retries ∧
            connection = .opened))
    | .resetAndReconnect =>
      (∃ reset, course.recovery = [⟨.reset, reset⟩]) ∧ result = .error fault ∧
        connection = .reconnecting
    | .reconnect => course.recovery = [] ∧ result = .error fault ∧ connection = .reconnecting
    | .softFail => course.recovery = [] ∧ result = .error fault ∧ connection = .opened

section
variable {settings : Transport.Settings} {command : Command} {retries : Nat} {course : Course}
  {ex : Exchange}

theorem of_last (of : ex.Of settings command) (retries : Nat) (recovery : List Done) :
    (⟨[], ex, recovery⟩ : Course).Of settings command retries where
  exchanges := by simp
  stalls := by simp
  bounded := Nat.zero_le retries
  last := of

theorem calls_alone (settings : Transport.Settings) (ex : Exchange) (recovery : List Done) :
    (⟨[], ex, recovery⟩ : Course).calls settings = ex.calls settings ++ recovery := by
  simp [calls]

/-- One more exchange that is tried again before a course. -/
def after (course : Course) (ex : Exchange) : Course :=
  { course with stalled := ex :: course.stalled }

theorem Of.after (h : course.Of settings command retries) (of : ex.Of settings command)
    (stall : ∃ detail, ex.outcome = .error (.usb .stall detail)) :
    (course.after ex).Of settings command (retries + 1) where
  exchanges := List.forall_mem_cons.mpr ⟨of, h.exchanges⟩
  stalls := List.forall_mem_cons.mpr ⟨stall, h.stalls⟩
  bounded := Nat.succ_le_succ h.bounded
  last := h.last

theorem calls_after (settings : Transport.Settings) (course : Course) (ex : Exchange) :
    (course.after ex).calls settings =
      ex.calls settings ++ [cleared] ++ course.calls settings := by
  simp [calls, after]

theorem Ends.after {result : Except Fault Frame} {connection : Connection}
    (h : course.Ends retries result connection) (ex : Exchange) :
    (course.after ex).Ends (retries + 1) result connection := by
  simpa [Ends, Course.after] using h

end

end Course

namespace Link

open Course (clearing cleared)

variable {σ : Type} [Device σ]

/-- An exchange that gave an outcome, and the link behind it. -/
theorem exchange_ended {link after : Link σ} {command : Command} {outcome : Except Fault Frame}
    (shown : link.exchange command = (outcome, after)) :
    ∃ ex : Exchange, ex.Of link.settings command ∧ ex.outcome = outcome ∧
      after.bus.calls = (ex.calls link.settings).reverse ++ link.bus.calls ∧
      after.connection = link.connection ∧ after.settings = link.settings := by
  obtain ⟨ex, of, given, calls⟩ := link.exchange_shown command
  obtain ⟨assembler, bus, kept⟩ := link.exchange_keeps command
  rw [shown] at given calls kept
  obtain rfl : after = { link with assembler, bus } := kept
  exact ⟨ex, of, given.symm, calls, rfl, rfl⟩

/-- **What carrying out a command does.** -/
theorem attempt_course (command : Command) (retries : Nat) {link : Link σ}
    (held : link.connection = .opened) :
    let got := attempt command retries link
    ∃ course : Course, course.Of link.settings command retries ∧
      course.Ends retries got.1 got.2.connection ∧
      got.2.bus.calls = (course.calls link.settings).reverse ++ link.bus.calls := by
  dsimp only
  fun_induction attempt command retries link with
  | case1 retries link frame after shown =>
    obtain ⟨ex, of, ended, calls, state, -⟩ := exchange_ended shown
    refine ⟨⟨[], ex, []⟩, Course.of_last of retries [], ?_, ?_⟩
    · simp [Course.Ends, ended, state, held]
    · simpa [Course.calls_alone] using calls
  | case2 retries link fault after shown treated =>
    obtain ⟨ex, of, ended, calls, -, -⟩ := exchange_ended shown
    refine ⟨⟨[], ex, []⟩, Course.of_last of retries [], ?_, ?_⟩
    · simp [Course.Ends, ended, treated, close]
    · simpa [Course.calls_alone, close] using calls
  | case3 retries link fault after shown treated refusal bus refused =>
    obtain ⟨ex, of, ended, calls, -, -⟩ := exchange_ended shown
    refine ⟨⟨[], ex, [⟨clearing, .error refusal⟩, ⟨.reset, (bus.call .reset).1⟩]⟩,
      Course.of_last of retries _, ?_, ?_⟩
    · simp [Course.Ends, ended, treated, resetAndDrop, markLost]
    · simp [Course.calls_alone, resetAndDrop, markLost, Bus.calls_of_call refused, calls]
  | case4 link fault after shown treated _ bus clears =>
    obtain ⟨ex, of, ended, calls, state, -⟩ := exchange_ended shown
    refine ⟨⟨[], ex, [cleared]⟩, Course.of_last of 0 _, ?_, ?_⟩
    · simp [Course.Ends, ended, treated, state, held]
    · simp [Course.calls_alone, Bus.calls_of_call clears, calls, cleared]
  | case5 link fault after shown treated _ bus clears retries ih =>
    -- Tried again: what follows is a course with one retry less, and this exchange stands before it.
    obtain ⟨ex, of, ended, calls, state, kept⟩ := exchange_ended shown
    obtain ⟨course, rest, ends, behind⟩ := ih (state.trans held)
    obtain ⟨detail, stall⟩ := Fault.stall_of_clearAndRetry treated
    have same : course.Of link.settings command retries := kept ▸ rest
    refine ⟨course.after ex, same.after of ⟨detail, ended.trans (congrArg _ stall)⟩,
      ends.after ex, ?_⟩
    rw [behind]
    simp [Course.calls_after, kept, Bus.calls_of_call clears, calls, cleared]
  | case6 retries link fault after shown treated =>
    obtain ⟨ex, of, ended, calls, -, -⟩ := exchange_ended shown
    refine ⟨⟨[], ex, [⟨.reset, (after.bus.call .reset).1⟩]⟩, Course.of_last of retries _, ?_, ?_⟩
    · simp [Course.Ends, ended, treated, resetAndDrop, markLost]
    · simp [Course.calls_alone, resetAndDrop, markLost, calls]
  | case7 retries link fault after shown treated =>
    obtain ⟨ex, of, ended, calls, -, -⟩ := exchange_ended shown
    refine ⟨⟨[], ex, []⟩, Course.of_last of retries [], ?_, ?_⟩
    · simp [Course.Ends, ended, treated, markLost]
    · simpa [Course.calls_alone, markLost] using calls
  | case8 retries link fault after shown treated =>
    obtain ⟨ex, of, ended, calls, state, -⟩ := exchange_ended shown
    refine ⟨⟨[], ex, []⟩, Course.of_last of retries [], ?_, ?_⟩
    · simp [Course.Ends, ended, treated, state, held]
    · simpa [Course.calls_alone] using calls

/-- How a link comes to be open: a handle is held, or the device is opened and its bridge
configured. -/
inductive Opening (link : Link σ) : List Done → Prop
  | held (held : link.connection = .opened) : Opening link []
  | anew (device : Identity) (sent : Except Fault Unit) (down : link.connection ≠ .opened)
      (found : (link.bus.call (.opening link.matcher)).1 = .ok device) :
      Opening link [⟨.opening link.matcher, .ok device⟩,
        ⟨.control 0x09 0x0300 featureReport link.settings.timeout, sent⟩]

/-- Opening failed, which was the only call and changed nothing. -/
structure Refused (link : Link σ) (fault : Fault) (after : Link σ) : Prop where
  down : link.connection ≠ .opened
  refused : (link.bus.call (.opening link.matcher)).1 = .error fault
  connection : after.connection = link.connection
  matcher : after.matcher = link.matcher
  reopened : after.reopened = link.reopened
  calls : after.bus.calls = ⟨.opening link.matcher, .error fault⟩ :: link.bus.calls

theorem ensureOpen_cases (link : Link σ) :
    (∃ fault after, link.ensureOpen = (.error fault, after) ∧ link.Refused fault after) ∨
    ∃ opening after, link.ensureOpen = (.ok (), after) ∧ link.Opening opening ∧
      after.connection = .opened ∧ after.settings = link.settings ∧
      after.bus.calls = opening.reverse ++ link.bus.calls := by
  fun_cases ensureOpen link with
  | case1 held =>
    have held : link.connection = .opened := by simpa [isOpen] using held
    exact .inr ⟨[], link, rfl, .held held, held, rfl, rfl⟩
  | case2 down fault bus refused =>
    have down : link.connection ≠ .opened := by simpa [isOpen] using down
    exact .inl ⟨fault, { link with bus }, rfl, down, congrArg Prod.fst refused, rfl, rfl, rfl,
      Bus.calls_of_call refused⟩
  | case3 down device bus found opened again =>
    have down : link.connection ≠ .opened := by simpa [isOpen] using down
    let sent := (bus.call (.control 0x09 0x0300 featureReport link.settings.timeout)).1
    refine .inr ⟨_, _, rfl, .anew device sent down (congrArg Prod.fst found), rfl, rfl, ?_⟩
    simp [opened, configureBridge, Bus.calls_of_call found, sent]

/-- **What carrying out a command does to any link.** The device cannot be opened, or the link takes
one of the courses there can be. -/
theorem execute_cases (link : Link σ) (command : Command) :
    let got := link.execute command
    (∃ fault, got.1 = .error fault ∧ link.Refused fault got.2) ∨
    ∃ (opening : List Done) (course : Course), link.Opening opening ∧
      course.Of link.settings command 1 ∧ course.Ends 1 got.1 got.2.connection ∧
      got.2.bus.calls = (opening ++ course.calls link.settings).reverse ++ link.bus.calls := by
  intro got
  obtain ⟨fault, after, failed, refused⟩ | ⟨opening, after, opened, opens, held, kept, before⟩ :=
    link.ensureOpen_cases
  · have ends : got = (.error fault, after) := by simp only [got, execute, failed]
    rw [ends]
    exact .inl ⟨fault, rfl, refused⟩
  · have goes_on : got = attempt command 1 after := by simp only [got, execute, opened]
    obtain ⟨course, of, ends, calls⟩ := attempt_course command 1 held
    rw [kept] at of calls
    rw [goes_on]
    refine .inr ⟨opening, course, opens, of, ends, ?_⟩
    rw [calls, before, List.reverse_append, List.append_assoc]

/-- No command goes by without a call, unless there is nothing to send. -/
theorem execute_calls (link : Link σ) (command : Command) :
    ∃ done, (link.execute command).2.bus.calls = done ++ link.bus.calls ∧
      (command.bytes ≠ [] → done ≠ []) := by
  obtain ⟨fault, -, refused⟩ | ⟨opening, course, -, of, -, calls⟩ := link.execute_cases command
  · exact ⟨[_], refused.calls, fun _ => List.cons_ne_nil _ _⟩
  · refine ⟨_, calls, fun something none_made => ?_⟩
    obtain ⟨silent, -⟩ : course.calls link.settings = [] ∧ opening = [] := by
      simpa using none_made
    have last_silent : course.last.calls link.settings = [] := by
      simp only [Course.calls, List.append_eq_nil_iff] at silent
      exact silent.1.2
    exact of.last.calls_ne_nil something last_silent

end Link

end UpsMonitor
