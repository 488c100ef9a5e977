import UpsMonitor.Proofs.Usb.Execution

/-!
# Handles

A link holds one handle after the other, told apart by their number. Main statements:

* `ensureOpen_holds`: a handle that is opened has the next number, and its being new is told only by
  a link that had lost the one before;
* `execute_holds`: a command opens a handle at its beginning if at all, and only a fatal fault
  closes a link.
-/

namespace UpsMonitor

def Call.isOpening : Call → Bool
  | .opening _ => true
  | _ => false

/-- Whether a call opened a handle. -/
def opensHandle : Done → Bool
  | ⟨.opening _, .ok _⟩ => true
  | _ => false

theorem countP_opensHandle_le (calls : List Done) :
    calls.countP opensHandle ≤ callCount Call.isOpening calls := by
  refine List.countP_mono_left fun done _ opens => ?_
  unfold opensHandle at opens
  split at opens
  · rfl
  · cases opens

/-- Exchanges and recovery open nothing. -/
theorem Course.countP_opensHandle {course : Course} {retries : Nat} {result : Except Fault Frame}
    {connection : Connection} (ends : course.Ends retries result connection)
    (settings : Transport.Settings) : (course.calls settings).countP opensHandle = 0 := by
  have exchanged (ex : Exchange) : callCount Call.isOpening (ex.calls settings) = 0 :=
    ex.callCount_others settings (fun _ _ _ => rfl) (fun _ _ _ => rfl)
  have cleared : callCount Call.isOpening [cleared] = 0 := rfl
  have recovered : callCount Call.isOpening course.recovery = 0 := by
    refine List.countP_eq_zero.mpr fun done member => ?_
    rcases ends.recovery_bounds.2.2.2 done member with same | same
    all_goals
      rw [same]
      decide
  have none_opens : callCount Call.isOpening (course.calls settings) = 0 := by
    simp [callCount_calls, exchanged, cleared, recovered]
  have most := countP_opensHandle_le (course.calls settings)
  omega

/-- Only a fatal fault closes a link. -/
theorem Course.Ends.fatal_of_closed {course : Course} {retries : Nat}
    {result : Except Fault Frame} (ends : course.Ends retries result .closed) :
    ∃ detail, result = .error (.fatal detail) := by
  unfold Ends at ends
  split at ends
  · cases ends.2.2
  · split at ends
    · exact ⟨_, ends.2.1⟩
    · obtain ⟨-, ⟨_, _, _, state⟩ | ⟨_, _, state⟩⟩ := ends
      · cases state
      · cases state
    · cases ends.2.2
    · cases ends.2.2
    · cases ends.2.2

namespace Link

variable {σ : Type}

/-- The number of the latest handle: how many were opened so far. -/
def handles (link : Link σ) : Nat := link.bus.calls.countP opensHandle

/-- How a link comes to the handle behind it. A handle that was lost is news when it is opened
again, and one that was given up is not. -/
inductive Holds (link after : Link σ) : Prop
  | kept (held : link.connection = .opened) (same : after.handles = link.handles)
      (news : after.reopened = link.reopened)
  | unannounced (closed : link.connection = .closed) (next : after.handles = link.handles + 1)
      (news : after.reopened = link.reopened)
  | announced (lost : link.connection = .reconnecting) (next : after.handles = link.handles + 1)
      (news : after.reopened = true)

/-- A link that could not be opened. -/
structure Unopened (link after : Link σ) : Prop where
  down : link.connection ≠ .opened
  connection : after.connection = link.connection
  same : after.handles = link.handles
  news : after.reopened = link.reopened

variable [Device σ]

theorem ensureOpen_holds (link : Link σ) :
    let got := link.ensureOpen
    ((∃ fault, got.1 = .error fault) ∧ link.Unopened got.2) ∨
      (got.1 = .ok () ∧ got.2.connection = .opened ∧ link.Holds got.2) := by
  intro got
  fun_cases ensureOpen link with
  | case1 held =>
    have ends : got = (.ok (), link) := by simp only [got, ensureOpen, if_pos held]
    have held : link.connection = .opened := by simpa [isOpen] using held
    rw [ends]
    exact .inr ⟨rfl, held, .kept held rfl rfl⟩
  | case2 down fault bus refused =>
    have ends : got = (.error fault, { link with bus }) := by
      simp only [got, ensureOpen, if_neg down, refused]
    have down : link.connection ≠ .opened := by simpa [isOpen] using down
    have same : Link.handles { link with bus } = link.handles := by
      simp [handles, Bus.calls_of_call refused, opensHandle]
    rw [ends]
    exact .inl ⟨⟨fault, rfl⟩, down, rfl, same, rfl⟩
  | case3 down device bus found pinned again =>
    have ends : got = (.ok (), { pinned.configureBridge with
        connection := .opened, reopened := again }) := by
      simp only [got, ensureOpen, if_neg down, found]
      rfl
    have down : link.connection ≠ .opened := by simpa [isOpen] using down
    have next : pinned.configureBridge.handles = link.handles + 1 := by
      simp only [handles, configureBridge, pinned, Bus.calls_call, Bus.calls_of_call found]
      rw [List.countP_cons_of_neg (by simp [opensHandle]), List.countP_cons_of_pos rfl]
    rw [ends]
    refine .inr ⟨rfl, rfl, ?_⟩
    cases state : link.connection with
    | opened => exact absurd state down
    | closed => exact .unannounced state next (by simp [again, pinned, state])
    | reconnecting => exact .announced state next (by simp [again, pinned, state])

theorem unopened_of_error {link after : Link σ} {fault : Fault}
    (refused : link.ensureOpen = (.error fault, after)) : link.Unopened after := by
  have opening := link.ensureOpen_holds
  rw [refused] at opening
  obtain ⟨-, unopened⟩ | ⟨succeeded, -⟩ := opening
  · exact unopened
  · cases succeeded

theorem holds_of_ok {link after : Link σ} {done : Unit}
    (opened : link.ensureOpen = (.ok done, after)) :
    after.connection = .opened ∧ link.Holds after := by
  have opening := link.ensureOpen_holds
  rw [opened] at opening
  obtain ⟨⟨fault, refused⟩, -⟩ | ⟨-, held, holds⟩ := opening
  · cases refused
  · exact ⟨held, holds⟩

/-- Behind the opening, a command leaves alone what was set then. -/
theorem attempt_keeps (command : Command) (retries : Nat) (link : Link σ) :
    ∃ assembler bus connection,
      (attempt command retries link).2 = { link with assembler, bus, connection } := by
  have kept {link after : Link σ} {outcome : Except Fault Frame}
      (shown : link.exchange command = (outcome, after)) :
      ∃ assembler bus, after = { link with assembler, bus } := by
    obtain ⟨assembler, bus, kept⟩ := link.exchange_keeps command
    exact ⟨assembler, bus, by rw [← kept, shown]⟩
  fun_induction attempt command retries link with
  | case1 _ _ _ _ shown | case2 _ _ _ _ shown | case3 _ _ _ _ shown | case4 _ _ _ shown
  | case6 _ _ _ _ shown | case7 _ _ _ _ shown | case8 _ _ _ _ shown =>
    obtain ⟨assembler, bus, rfl⟩ := kept shown
    exact ⟨_, _, _, rfl⟩
  | case5 _ _ _ shown _ _ _ _ _ ih =>
    obtain ⟨assembler, bus, rfl⟩ := kept shown
    obtain ⟨assembler', bus', connection, ends⟩ := ih
    exact ⟨assembler', bus', connection, ends⟩

/-- **What a command does to the handle.** Unless the link cannot be opened, its handle is the one
of the exchange from then on. -/
theorem execute_holds (link : Link σ) (command : Command) :
    let got := link.execute command
    ((∃ fault, got.1 = .error fault) ∧ link.Unopened got.2) ∨
      (link.Holds got.2 ∧ (∀ frame, got.1 = .ok frame → got.2.connection = .opened) ∧
        (got.2.connection = .closed → ∃ detail, got.1 = .error (.fatal detail))) := by
  intro got
  have opening := link.ensureOpen_holds
  cases opened : link.ensureOpen with | mk outcome before
  rw [opened] at opening
  obtain ⟨⟨fault, rfl⟩, unopened⟩ | ⟨rfl, held, holds⟩ := opening
  · have ends : got = (.error fault, before) := by simp only [got, execute, opened]
    rw [ends]
    exact .inl ⟨⟨fault, rfl⟩, unopened⟩
  · have goes_on : got = attempt command 1 before := by simp only [got, execute, opened]
    obtain ⟨course, -, ends, calls⟩ := attempt_course command 1 held
    have same : got.2.handles = before.handles := by
      rw [goes_on, handles, calls, List.countP_append, List.countP_reverse,
        Course.countP_opensHandle ends, Nat.zero_add, handles]
    have news : got.2.reopened = before.reopened := by
      obtain ⟨assembler, bus, connection, kept⟩ := attempt_keeps command 1 before
      rw [goes_on, kept]
    rw [← goes_on] at ends
    refine .inr ⟨?_, fun frame answered => (answered ▸ ends).answered.2, fun closed => ?_⟩
    · cases holds with
      | kept up same' news' => exact .kept up (same.trans same') (news.trans news')
      | unannounced closed next news' =>
        exact .unannounced closed (same.trans next) (news.trans news')
      | announced lost next news' => exact .announced lost (same.trans next) (news.trans news')
    · exact (closed ▸ ends).fatal_of_closed

end Link

end UpsMonitor
