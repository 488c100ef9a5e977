import UpsMonitor.Proofs.Monitor.Control

/-!
# The shutdown sequence

A shutdown is tried in attempts, each of which cancels what is pending before it shuts down. Main
statements:

* `runAll_attempt`: what one attempt does;
* `shutdownWithin_attempts`: which attempts are made, and how they end;
* `shutdown_sequence`: a shutdown succeeds just when its last attempt goes through, and no unit on
  line is ever shut down.
-/

namespace UpsMonitor

variable {σ : Type}

/-! ## Attempts -/

/-- What was sent in one attempt: the command that cancels, and maybe the one that shuts down. -/
structure Attempt (σ : Type) where
  cancel : Talk σ
  shutdown : Option (Talk σ)

namespace Monitor

/-- The command that cancels a shutdown, in the family and mode that were negotiated. -/
def cancelFrame (m : Monitor σ) : Command :=
  match m.dialect.family with
  | .gpser => GpserCommand.cancelShutdown.encode m.dialect.mode
  | .sentry => SentryCommand.cancel.encode

/-- The command that shuts the unit down after the delay that is configured. -/
def shutdownFrame (m : Monitor σ) : Command :=
  match m.dialect.family with
  | .gpser => (GpserCommand.shutdown m.settings.delays.shutdown).encode m.dialect.mode
  | .sentry => (SentryCommand.shutdown m.settings.delays.shutdown).encode

end Monitor

namespace Attempt

/-- The talks of an attempt, in order. -/
def talks (attempt : Attempt σ) : List (Talk σ) := attempt.cancel :: attempt.shutdown.toList

/-- Both commands were handled. -/
def Through (attempt : Attempt σ) : Prop :=
  attempt.cancel.Accepted ∧ ∃ talk, attempt.shutdown = some talk ∧ talk.Accepted

/-- A fatal fault broke the attempt off. -/
def Breaks (attempt : Attempt σ) (detail : String) : Prop :=
  ∃ talk ∈ attempt.talks, talk.outcome = .error (.fatal detail)

/-- It came to nothing, and may be made anew. -/
def Fails (attempt : Attempt σ) : Prop :=
  ¬attempt.Through ∧ ∀ detail, ¬attempt.Breaks detail

/-- An attempt of a monitor. It comes to the shutdown only when the unit was last seen on battery
and took the command that cancels. -/
structure Of (m : Monitor σ) (attempt : Attempt σ) : Prop where
  cancels : attempt.cancel.command = m.cancelFrame
  shuts : ∀ talk, attempt.shutdown = some talk → talk.command = m.shutdownFrame
  goes_on : attempt.shutdown.isSome = true ↔
    attempt.cancel.Accepted ∧ testBit m.snapshot.status.bytes 1 = true

/-- What an attempt comes to. -/
inductive Comes (attempt : Attempt σ) : Except Fault Bool → Prop
  | through (through : attempt.Through) : Comes attempt (.ok true)
  | failed (fails : attempt.Fails) : Comes attempt (.ok false)
  | broke {detail : String} (breaks : attempt.Breaks detail) :
      Comes attempt (.error (.fatal detail))

/-- A run of attempts, within a number of them: each but the last fails, and the last fails too only
if the number is used up. -/
inductive Ends : Nat → List (Attempt σ) → Except Fault Unit → Prop
  | spent : Ends 0 [] (.error (.protocol "shutdown failed"))
  | again {tries : Nat} {attempt : Attempt σ} {rest : List (Attempt σ)}
      {outcome : Except Fault Unit} (fails : attempt.Fails) (ends : Ends tries rest outcome) :
      Ends (tries + 1) (attempt :: rest) outcome
  | through {tries : Nat} {attempt : Attempt σ} (through : attempt.Through) :
      Ends (tries + 1) [attempt] (.ok ())
  | broke {tries : Nat} {attempt : Attempt σ} {detail : String} (breaks : attempt.Breaks detail) :
      Ends (tries + 1) [attempt] (.error (.fatal detail))

theorem Through.accepted {attempt : Attempt σ} (through : attempt.Through) :
    ∀ talk ∈ attempt.talks, talk.Accepted := by
  obtain ⟨cancelled, second, shutdown, accepted⟩ := through
  simpa [talks, shutdown] using ⟨cancelled, accepted⟩

theorem Through.not_breaks {attempt : Attempt σ} (through : attempt.Through) (detail : String) :
    ¬attempt.Breaks detail := by
  rintro ⟨talk, member, fatal⟩
  exact (through.accepted talk member).soft detail fatal

/-- An attempt ends with a command that is refused, and comes to what this command comes to. -/
theorem comes_of_refused {attempt : Attempt σ} {talk : Talk σ}
    {status : Except Fault CommandStatus} (judged : talk.Judged status) (refused : ¬talk.Accepted)
    (member : talk ∈ attempt.talks)
    (others : ∀ other ∈ attempt.talks, other = talk ∨ other.Accepted) :
    attempt.Comes (status.map fun _ => false) := by
  have stopped : ¬attempt.Through := fun through => refused (through.accepted talk member)
  cases judged with
  | handled accepted => exact absurd accepted refused
  | failed _ soft =>
    refine .failed ⟨stopped, ?_⟩
    rintro detail ⟨other, inside, fatal⟩
    rcases others other inside with rfl | accepted
    · exact soft detail fatal
    · exact accepted.soft detail fatal
  | broke fatal => exact .broke ⟨talk, member, fatal⟩

theorem Of.of_behind {m : Monitor σ} {attempt : Attempt σ} {talks : List (Talk σ)}
    {link : Link σ} (of : attempt.Of (m.behind talks link)) : attempt.Of m :=
  ⟨of.cancels, of.shuts, of.goes_on⟩

/-- Nothing is sent in an attempt behind a fatal fault. -/
theorem Of.fatal_is_last {m : Monitor σ} {attempt : Attempt σ} (of : attempt.Of m) {talk : Talk σ}
    (member : talk ∈ attempt.talks) {detail : String}
    (fatal : talk.outcome = .error (.fatal detail)) : attempt.talks.getLast? = some talk := by
  cases sent : attempt.shutdown with
  | none =>
    obtain rfl : talk = attempt.cancel := by simpa [talks, sent] using member
    simp [talks, sent]
  | some second =>
    have cancelled : attempt.cancel.Accepted := (of.goes_on.mp (by rw [sent]; rfl)).1
    have one : talk = attempt.cancel ∨ talk = second := by simpa [talks, sent] using member
    rcases one with rfl | rfl
    · exact absurd fatal (cancelled.soft detail)
    · simp [talks, sent]

theorem Of.breaks_unique {m : Monitor σ} {attempt : Attempt σ} (of : attempt.Of m)
    {detail other : String} (breaks : attempt.Breaks detail) (breaks' : attempt.Breaks other) :
    detail = other := by
  obtain ⟨talk, member, fatal⟩ := breaks
  obtain ⟨talk', member', fatal'⟩ := breaks'
  have last := of.fatal_is_last member fatal
  obtain rfl : talk = talk' := Option.some.inj (last.symm.trans (of.fatal_is_last member' fatal'))
  cases fatal.symm.trans fatal'
  rfl

/-- A unit that is on line is not shut down. -/
theorem Of.on_line {m : Monitor σ} {attempt : Attempt σ} (of : attempt.Of m)
    (line : testBit m.snapshot.status.bytes 1 = false) : attempt.shutdown = none := by
  cases sent : attempt.shutdown with
  | none => rfl
  | some second =>
    have battery := (of.goes_on.mp (by rw [sent]; rfl)).2
    cases line.symm.trans battery

namespace Ends

variable {tries : Nat} {attempts : List (Attempt σ)} {outcome : Except Fault Unit}

theorem length_le (ends : Ends tries attempts outcome) : attempts.length ≤ tries := by
  induction ends with
  | spent => exact Nat.le_refl 0
  | again _ _ ih => exact Nat.succ_le_succ ih
  | through | broke => simp

/-- Only the last attempt may do anything but fail. -/
theorem fails_before (ends : Ends tries attempts outcome) :
    ∀ attempt ∈ attempts.dropLast, attempt.Fails := by
  induction ends with
  | spent | through | broke => simp
  | @again tries attempt rest outcome fails _ ih =>
    intro earlier member
    cases rest with
    | nil => simp at member
    | cons next later =>
      rcases List.mem_cons.mp member with rfl | inside
      · exact fails
      · exact ih earlier inside

theorem ok_iff (ends : Ends tries attempts outcome) :
    outcome = .ok () ↔ ∃ attempt ∈ attempts, attempt.Through := by
  induction ends with
  | spent => simp
  | again fails _ ih => simpa [fails.1] using ih
  | through through => simpa using through
  | @broke _ attempt detail breaks =>
    have not_through : ¬attempt.Through := fun through => through.not_breaks detail breaks
    simpa using not_through

theorem fatal_iff {m : Monitor σ} (ends : Ends tries attempts outcome)
    (of : ∀ attempt ∈ attempts, attempt.Of m) (detail : String) :
    outcome = .error (.fatal detail) ↔ ∃ attempt ∈ attempts, attempt.Breaks detail := by
  induction ends with
  | spent => simp
  | again fails _ ih =>
    have rest := ih fun attempt member => of attempt (List.mem_cons_of_mem _ member)
    simpa [fails.2 detail] using rest
  | through through => simpa using through.not_breaks detail
  | @broke _ attempt told breaks =>
    have same : attempt.Breaks detail ↔ told = detail := by
      constructor
      · exact (of attempt (List.mem_singleton_self _)).breaks_unique breaks
      · rintro rfl
        exact breaks
    simp [same]

/-- Nothing at all is sent behind a fatal fault. -/
theorem fatal_is_last {m : Monitor σ} (ends : Ends tries attempts outcome)
    (of : ∀ attempt ∈ attempts, attempt.Of m) {talk : Talk σ}
    (member : talk ∈ attempts.flatMap talks) {detail : String}
    (fatal : talk.outcome = .error (.fatal detail)) :
    (attempts.flatMap talks).getLast? = some talk := by
  induction ends with
  | spent => cases member
  | @again _ attempt rest _ fails _ ih =>
    rw [List.flatMap_cons] at member ⊢
    rcases List.mem_append.mp member with inside | later
    · exact absurd ⟨talk, inside, fatal⟩ (fails.2 detail)
    · have last := ih (fun attempt member => of attempt (List.mem_cons_of_mem _ member)) later
      rw [List.getLast?_append, last]
      rfl
  | @through _ attempt through =>
    have inside : talk ∈ attempt.talks := by simpa using member
    exact absurd fatal ((through.accepted talk inside).soft detail)
  | @broke _ attempt =>
    have inside : talk ∈ attempt.talks := by simpa using member
    simpa using (of attempt (List.mem_singleton_self _)).fatal_is_last inside fatal

/-- An attempt is made if there may be one. -/
theorem ne_nil (ends : Ends tries attempts outcome) (some_tries : 0 < tries) : attempts ≠ [] := by
  cases ends with
  | spent => cases some_tries
  | again | through | broke => exact List.cons_ne_nil _ _

/-- Nothing follows an attempt that went through. -/
theorem ends_through {attempt : Attempt σ} {rest : List (Attempt σ)}
    (ends : Ends tries (attempt :: rest) outcome) (through : attempt.Through) :
    rest = [] ∧ outcome = .ok () := by
  cases ends with
  | again fails => exact absurd through fails.1
  | through => exact ⟨rfl, rfl⟩
  | broke breaks => exact absurd breaks (through.not_breaks _)

/-- Attempts that all fail are given up when none is left. -/
theorem given_up (ends : Ends tries attempts outcome)
    (fail : ∀ attempt ∈ attempts, attempt.Fails) :
    outcome = .error (.protocol "shutdown failed") ∧ attempts.length = tries := by
  induction ends with
  | spent => exact ⟨rfl, rfl⟩
  | again _ _ ih =>
    obtain ⟨same, count⟩ := ih fun attempt member => fail attempt (List.mem_cons_of_mem _ member)
    exact ⟨same, congrArg (· + 1) count⟩
  | @through _ attempt through =>
    exact absurd through (fail attempt (List.mem_singleton_self _)).1
  | @broke _ attempt detail breaks =>
    exact absurd breaks ((fail attempt (List.mem_singleton_self _)).2 detail)

end Ends

end Attempt

/-! ## The sequence -/

namespace Monitor

theorem behind_behind (m : Monitor σ) (talks later : List (Talk σ)) (link after : Link σ) :
    (m.behind talks link).behind later after = m.behind (talks ++ later) after := by
  simp [behind]

variable [Device σ]

theorem run_cancel (m : Monitor σ) : m.run .shutdownStop = m.sendFrame m.cancelFrame := by
  have frames : InstantCommand.shutdownStop.frames m.dialect.family m.dialect.mode
      m.settings.delays = [m.cancelFrame] := by
    unfold cancelFrame
    cases m.dialect.family <;> rfl
  exact run_single (by simp [available, InstantCommand.supportedBy, InstantCommand.allowed]) frames

/-- A shutdown is sent to a unit on battery only. -/
theorem run_shutdown (m : Monitor σ) :
    m.run .shutdownReturn =
      if testBit m.snapshot.status.bytes 1 then m.sendFrame m.shutdownFrame
      else (.ok .unknown, m) := by
  have free : m.available .shutdownReturn = testBit m.snapshot.status.bytes 1 := by
    simp [available, InstantCommand.supportedBy, InstantCommand.allowed, Snapshot.onBattery_flags]
  have frames : InstantCommand.shutdownReturn.frames m.dialect.family m.dialect.mode
      m.settings.delays = [m.shutdownFrame] := by
    unfold shutdownFrame
    cases m.dialect.family <;> rfl
  by_cases battery : testBit m.snapshot.status.bytes 1
  · rw [if_pos battery]
    exact run_single (free.trans battery) frames
  · rw [if_neg battery, run, free, if_neg battery]

/-- A command that is not handled ends the sequence. -/
theorem runAll_stops {m after : Monitor σ} {command : InstantCommand}
    {status : Except Fault CommandStatus} (ran : m.run command = (status, after))
    (unhandled : status ≠ .ok .handled) (rest : List InstantCommand) :
    runAll (command :: rest) m = (status.map fun _ => false, after) := by
  unfold runAll
  rw [ran]
  split
  · next same =>
    cases same
    exact absurd rfl unhandled
  · next same =>
    cases same
    rfl
  · next same =>
    cases same
    rfl

/-- Behind a command that was taken, an attempt goes on to the shutdown. -/
theorem runAll_goes_on {m : Monitor σ} {cancel : Talk σ} (named : cancel.command = m.cancelFrame)
    (carried : m.link.Carries [cancel] cancel.link) (cancelled : cancel.Accepted)
    (battery : testBit m.snapshot.status.bytes 1 = true) :
    ∃ (second : Talk σ) (outcome : Except Fault Bool),
      runAll [.shutdownReturn] (m.heard cancel) = (outcome, (m.heard cancel).heard second) ∧
      m.link.Carries [cancel, second] second.link ∧ Attempt.Of m ⟨cancel, some second⟩ ∧
      Attempt.Comes ⟨cancel, some second⟩ outcome := by
  obtain ⟨status, ended, judged⟩ := (m.heard cancel).sendFrame_judged m.shutdownFrame
  have ran := ((m.heard cancel).run_shutdown.trans (if_pos battery)).trans ended
  generalize shutting : (m.heard cancel).talk m.shutdownFrame = second at ran judged
  have carried' : m.link.Carries [cancel, second] second.link := by
    subst shutting
    exact carried.trans (.next _ (.done _))
  have of : Attempt.Of m ⟨cancel, some second⟩ := by
    refine ⟨named, ?_, by simp [cancelled, battery]⟩
    rintro talk ⟨⟩
    exact congrArg Talk.command shutting.symm
  by_cases accepted : second.Accepted
  · obtain rfl := judged.accepted_iff.mp accepted
    have ends : runAll [.shutdownReturn] (m.heard cancel) =
        (.ok true, (m.heard cancel).heard second) := by
      simp only [runAll, ran]
    exact ⟨second, _, ends, carried', of, .through ⟨cancelled, second, rfl, accepted⟩⟩
  · have ends := runAll_stops ran (mt judged.accepted_iff.mpr accepted) []
    refine ⟨second, _, ends, carried', of,
      Attempt.comes_of_refused judged accepted (by simp [Attempt.talks]) ?_⟩
    simp [Attempt.talks, cancelled]

/-- **One attempt.** It cancels first, and shuts down only a unit on battery that took this. -/
theorem runAll_attempt (m : Monitor σ) :
    ∃ (attempt : Attempt σ) (link : Link σ) (outcome : Except Fault Bool),
      runAll shutdownSequence m = (outcome, m.behind attempt.talks link) ∧
      m.link.Carries attempt.talks link ∧ attempt.Of m ∧ attempt.Comes outcome := by
  obtain ⟨status, ended, judged⟩ := m.sendFrame_judged m.cancelFrame
  have ran := m.run_cancel.trans ended
  generalize cancels : m.talk m.cancelFrame = cancel at ran judged
  have named : cancel.command = m.cancelFrame := congrArg Talk.command cancels.symm
  have carried : m.link.Carries [cancel] cancel.link := by
    subst cancels
    exact .next _ (.done _)
  by_cases cancelled : cancel.Accepted
  · obtain rfl := judged.accepted_iff.mp cancelled
    have goes_on : runAll shutdownSequence m = runAll [.shutdownReturn] (m.heard cancel) := by
      rw [shutdownSequence, runAll, ran]
    by_cases battery : testBit m.snapshot.status.bytes 1
    · obtain ⟨second, outcome, ends, carried', of, comes⟩ :=
        runAll_goes_on named carried cancelled battery
      exact ⟨⟨cancel, some second⟩, second.link, outcome, goes_on.trans ends, carried', of, comes⟩
    · have ran' := (m.heard cancel).run_shutdown.trans (if_neg battery)
      have ends := runAll_stops ran' (by simp) []
      refine ⟨⟨cancel, none⟩, cancel.link, .ok false, goes_on.trans ends, carried,
        ⟨named, by simp, by simp [battery]⟩, .failed ⟨?_, ?_⟩⟩
      · rintro ⟨-, talk, sent, -⟩
        cases sent
      · rintro detail ⟨talk, member, fatal⟩
        obtain rfl := List.mem_singleton.mp member
        exact cancelled.soft detail fatal
  · have ends := runAll_stops ran (mt judged.accepted_iff.mpr cancelled) [.shutdownReturn]
    refine ⟨⟨cancel, none⟩, cancel.link, _, ends, carried, ⟨named, by simp, by simp [cancelled]⟩,
      Attempt.comes_of_refused judged cancelled (List.mem_singleton_self _) ?_⟩
    exact fun other member => .inl (List.mem_singleton.mp member)

/-- **Attempt after attempt.** -/
theorem shutdownWithin_attempts (tries : Nat) (m : Monitor σ) :
    ∃ (attempts : List (Attempt σ)) (link : Link σ) (outcome : Except Fault Unit),
      shutdownWithin tries m = (outcome, m.behind (attempts.flatMap Attempt.talks) link) ∧
      m.link.Carries (attempts.flatMap Attempt.talks) link ∧
      (∀ attempt ∈ attempts, attempt.Of m) ∧ Attempt.Ends tries attempts outcome := by
  induction tries generalizing m with
  | zero => exact ⟨[], m.link, _, rfl, .done m.link, by simp, .spent⟩
  | succ tries ih =>
    obtain ⟨attempt, link, outcome, ended, carried, of, comes⟩ := m.runAll_attempt
    have alone : [attempt].flatMap Attempt.talks = attempt.talks := by simp
    cases comes with
    | through through =>
      refine ⟨[attempt], link, .ok (), ?_, alone ▸ carried, by simpa using of, .through through⟩
      rw [shutdownWithin, ended, alone]
    | broke breaks =>
      refine ⟨[attempt], link, _, ?_, alone ▸ carried, by simpa using of, .broke breaks⟩
      rw [shutdownWithin, ended, alone]
    | failed fails =>
      obtain ⟨attempts, after, outcome, ended', carried', of', ends⟩ :=
        ih (m.behind attempt.talks link)
      refine ⟨attempt :: attempts, after, outcome, ?_, carried.trans carried', ?_,
        .again fails ends⟩
      · rw [shutdownWithin, ended]
        simp only [ended', behind_behind, List.flatMap_cons]
      · exact List.forall_mem_cons.mpr ⟨of, fun other member => (of' other member).of_behind⟩

/-- **The shutdown sequence.** Within the number of tries, attempt after attempt is made until one
goes through or breaks off, and nothing is sent behind that. A unit that was last seen on line is
not shut down. -/
theorem shutdown_sequence (m : Monitor σ) :
    let got := m.shutdown
    ∃ attempts : List (Attempt σ),
      m.link.Carries (attempts.flatMap Attempt.talks) got.2.link ∧
      got.2.talks = (attempts.flatMap Attempt.talks).reverse ++ m.talks ∧
      attempts.length ≤ m.settings.shutdownRetries ∧
      (∀ attempt ∈ attempts, attempt.Of m) ∧
      (∀ attempt ∈ attempts.dropLast, attempt.Fails) ∧
      (got.1 = .ok () ↔ ∃ attempt ∈ attempts, attempt.Through) ∧
      (∀ detail, got.1 = .error (.fatal detail) ↔ ∃ attempt ∈ attempts, attempt.Breaks detail) ∧
      (∀ talk ∈ attempts.flatMap Attempt.talks, ∀ detail, talk.outcome = .error (.fatal detail) →
        (attempts.flatMap Attempt.talks).getLast? = some talk) ∧
      ((∀ attempt ∈ attempts, attempt.Fails) →
        got.1 = .error (.protocol "shutdown failed") ∧
        attempts.length = m.settings.shutdownRetries) ∧
      (testBit m.snapshot.status.bytes 1 = false →
        (∀ attempt ∈ attempts, attempt.shutdown = none) ∧ got.1 ≠ .ok ()) := by
  intro got
  obtain ⟨attempts, link, outcome, ended, carried, of, ends⟩ :=
    shutdownWithin_attempts m.settings.shutdownRetries m
  have same : got = (outcome, m.behind (attempts.flatMap Attempt.talks) link) := ended
  rw [same]
  refine ⟨attempts, carried, rfl, ends.length_le, of, ends.fails_before, ends.ok_iff,
    ends.fatal_iff of, fun talk member detail fatal => ends.fatal_is_last of member fatal,
    ends.given_up, fun line => ?_⟩
  have none_sent : ∀ attempt ∈ attempts, attempt.shutdown = none :=
    fun attempt member => (of attempt member).on_line line
  refine ⟨none_sent, fun succeeded => ?_⟩
  obtain ⟨attempt, member, -, talk, sent, -⟩ := ends.ok_iff.mp succeeded
  cases (none_sent attempt member).symm.trans sent

end Monitor

end UpsMonitor
