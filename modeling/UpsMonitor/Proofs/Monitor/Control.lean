import Mathlib.Data.List.Basic
import UpsMonitor.Proofs.Monitor.Operation
import UpsMonitor.Proofs.Usb.Course
import UpsMonitor.Usb.Bench

/-!
# Commands to the unit

Which commands are sent to a unit, and how they are sent frame by frame. Main statements:

* `sendFrames_sent`: frames go out in order, up to the first that is not accepted;
* `run_handled_iff`: so a command is handled if all of its frames were sent and accepted, and only
  then;
* `instant_unknown_iff`: a name is refused for one of four reasons, and then nothing is touched. Any
  other name has the link carry out something.
-/

namespace UpsMonitor

variable {σ : Type}

/-! ## What a talk comes to -/

namespace Talk

/-- The unit took the command: it replied without a flag, or it is a SENTRY unit and kept silent. -/
inductive Accepted (talk : Talk σ) : Prop
  | replied {frame : Frame} (answer : talk.outcome = .ok frame) (accepted : frame.nak = false)
      (intact : frame.badChecksum = false)
  | silent {reports : Nat} (sentry : talk.command.family = .sentry)
      (silence : talk.outcome = .error (.timeout reports))

/-- What a command comes to, told by the talk in which it was sent. -/
inductive Judged (talk : Talk σ) : Except Fault CommandStatus → Prop
  | handled (accepted : talk.Accepted) : Judged talk (.ok .handled)
  | failed (refused : ¬talk.Accepted) (soft : ∀ detail, talk.outcome ≠ .error (.fatal detail)) :
      Judged talk (.ok .failed)
  | broke {detail : String} (fatal : talk.outcome = .error (.fatal detail)) :
      Judged talk (.error (.fatal detail))

theorem Accepted.soft {talk : Talk σ} (accepted : talk.Accepted) (detail : String) :
    talk.outcome ≠ .error (.fatal detail) := by
  intro fatal
  cases accepted with
  | replied answer => cases answer.symm.trans fatal
  | silent _ silence => cases silence.symm.trans fatal

theorem accepted_of_ok {talk : Talk σ} {frame : Frame} (answer : talk.outcome = .ok frame) :
    talk.Accepted ↔ frame.clean = true := by
  constructor
  · intro accepted
    cases accepted with
    | replied answer' accepted intact =>
      cases answer.symm.trans answer'
      exact Frame.clean_iff.mpr ⟨accepted, intact⟩
    | silent _ silence => cases answer.symm.trans silence
  · intro clean
    obtain ⟨accepted, intact⟩ := Frame.clean_iff.mp clean
    exact .replied answer accepted intact

theorem Judged.accepted_iff {talk : Talk σ} {status : Except Fault CommandStatus}
    (judged : talk.Judged status) : talk.Accepted ↔ status = .ok .handled := by
  cases judged with
  | handled accepted => simp [accepted]
  | failed refused => simp [refused]
  | broke fatal => simpa using fun accepted => accepted.soft _ fatal

end Talk

/-! ## Sending frames -/

/-- Commands that a link carries out one after the other, each in a talk. -/
inductive Link.Carries [Device σ] : Link σ → List (Talk σ) → Link σ → Prop
  | done (link : Link σ) : Carries link [] link
  | next {link after : Link σ} {talks : List (Talk σ)} (command : Command)
      (later : Carries (link.execute command).2 talks after) :
      Carries link (⟨command, (link.execute command).1, (link.execute command).2⟩ :: talks) after

theorem Link.Carries.trans [Device σ] {a b c : Link σ} {talks later : List (Talk σ)}
    (h : a.Carries talks b) (k : b.Carries later c) : a.Carries (talks ++ later) c := by
  induction h with
  | done => exact k
  | next command _ ih => exact .next command (ih k)

theorem Link.Carries.calls_length_le [Device σ] {link after : Link σ} {talks : List (Talk σ)}
    (carried : link.Carries talks after) :
    link.bus.calls.length ≤ after.bus.calls.length := by
  induction carried with
  | done => exact Nat.le_refl _
  | @next link after talks command _ ih =>
    obtain ⟨done, calls, -⟩ := link.execute_calls command
    rw [calls, List.length_append] at ih
    omega

/-- Whoever carries out a command with something to send calls the device. -/
theorem Link.Carries.calls_length_lt [Device σ] {link after : Link σ} {talk : Talk σ}
    {later : List (Talk σ)} (carried : link.Carries (talk :: later) after)
    (something : talk.command.bytes ≠ []) :
    link.bus.calls.length < after.bus.calls.length := by
  cases carried with
  | next command rest =>
    obtain ⟨done, calls, made⟩ := link.execute_calls command
    have some_made := List.length_pos_iff.mpr (made something)
    have more := rest.calls_length_le
    rw [calls, List.length_append] at more
    omega

/-- How frames are sent: all of them are accepted, or it ends with the first that is not. -/
inductive Sent : List Command → List (Talk σ) → Except Fault CommandStatus → Prop
  | whole {talks : List (Talk σ)} (accepted : ∀ talk ∈ talks, talk.Accepted) :
      Sent (talks.map Talk.command) talks (.ok .handled)
  | cut {talks : List (Talk σ)} {last : Talk σ} {status : Except Fault CommandStatus}
      (accepted : ∀ talk ∈ talks, talk.Accepted) (refused : ¬last.Accepted)
      (judged : last.Judged status) (rest : List Command) :
      Sent (talks.map Talk.command ++ last.command :: rest) (talks ++ [last]) status

namespace Sent

variable {commands : List Command} {talks : List (Talk σ)} {status : Except Fault CommandStatus}

theorem after {talk : Talk σ} (sent : Sent commands talks status) (accepted : talk.Accepted) :
    Sent (talk.command :: commands) (talk :: talks) status := by
  cases sent with
  | whole others => exact .whole (List.forall_mem_cons.mpr ⟨accepted, others⟩)
  | cut others refused judged rest =>
    exact .cut (List.forall_mem_cons.mpr ⟨accepted, others⟩) refused judged rest

theorem in_order (sent : Sent commands talks status) : talks.map Talk.command <+: commands := by
  cases sent with
  | whole => exact List.prefix_rfl
  | cut _ _ _ rest => exact ⟨rest, by simp⟩

/-- Sending gives a verdict on the unit, and no doubt about the command. -/
theorem status_cases (sent : Sent commands talks status) :
    status = .ok .handled ∨ status = .ok .failed ∨ ∃ detail, status = .error (.fatal detail) := by
  cases sent with
  | whole => exact .inl rfl
  | cut _ _ judged =>
    cases judged with
    | handled => exact .inl rfl
    | failed => exact .inr (.inl rfl)
    | broke => exact .inr (.inr ⟨_, rfl⟩)

/-- The first frame is always sent. -/
theorem begins {first : Command} {rest : List Command} (sent : Sent (first :: rest) talks status) :
    ∃ talk later, talks = talk :: later ∧ talk.command = first := by
  generalize shape : first :: rest = commands at sent
  cases sent with
  | whole =>
    obtain ⟨talk, later, same, command, -⟩ := List.map_eq_cons_iff.mp shape.symm
    exact ⟨talk, later, same, command⟩
  | @cut talks last =>
    cases talks with
    | nil => exact ⟨last, [], rfl, (List.cons.inj shape).1.symm⟩
    | cons talk later => exact ⟨talk, later ++ [last], rfl, (List.cons.inj shape).1.symm⟩

/-- Nothing is sent behind a frame that is not accepted. -/
theorem accepted_before (sent : Sent commands talks status) :
    ∀ talk ∈ talks.dropLast, talk.Accepted := by
  intro talk early
  cases sent with
  | whole accepted => exact accepted talk (List.dropLast_subset _ early)
  | cut accepted =>
    rw [List.dropLast_concat] at early
    exact accepted talk early

/-- Only a frame that is not accepted keeps others from being sent. -/
theorem whole_or_refused (sent : Sent commands talks status) :
    talks.map Talk.command = commands ∨ ∃ last, talks.getLast? = some last ∧ ¬last.Accepted := by
  cases sent with
  | whole => exact .inl rfl
  | @cut talks last _ _ refused => exact .inr ⟨last, by simp, refused⟩

theorem handled_iff (sent : Sent commands talks status) :
    status = .ok .handled ↔
      talks.map Talk.command = commands ∧ ∀ talk ∈ talks, talk.Accepted := by
  cases sent with
  | whole accepted => simpa using accepted
  | @cut talks last _ _ refused judged =>
    constructor
    · intro handled
      exact absurd (judged.accepted_iff.mpr handled) refused
    · rintro ⟨-, all⟩
      exact absurd (all last (by simp)) refused

theorem fatal_iff (sent : Sent commands talks status) (detail : String) :
    status = .error (.fatal detail) ↔
      ∃ last, talks.getLast? = some last ∧ last.outcome = .error (.fatal detail) := by
  cases sent with
  | whole accepted =>
    constructor
    · intro fatal
      cases fatal
    · rintro ⟨last, final, fatal⟩
      exact absurd fatal ((accepted last (List.mem_of_getLast? final)).soft detail)
  | @cut talks last _ _ refused judged =>
    have final : (talks ++ [last]).getLast? = some last := by simp
    cases judged with
    | handled accepted => exact absurd accepted refused
    | failed _ soft => simpa [final] using soft detail
    | broke fatal =>
      rw [final]
      simp [fatal]

end Sent

namespace Monitor

variable [Device σ]

/-- The monitor behind some talks, given in order. -/
def behind (m : Monitor σ) (talks : List (Talk σ)) (link : Link σ) : Monitor σ :=
  { m with link, talks := talks.reverse ++ m.talks }

theorem sendFrame_judged (m : Monitor σ) (command : Command) :
    ∃ status, m.sendFrame command = (status, m.heard (m.talk command)) ∧
      (m.talk command).Judged status := by
  have said := m.carryOut_eq command
  have named : (m.talk command).command = command := rfl
  generalize m.talk command = talk at said named ⊢
  fun_cases sendFrame m command with
  | case1 reply after answered =>
    obtain ⟨answer, rfl⟩ := Prod.mk.inj (said.symm.trans answered)
    refine ⟨_, rfl, ?_⟩
    by_cases clean : reply.clean
    · rw [if_pos clean]
      exact .handled ((Talk.accepted_of_ok answer).mpr clean)
    · rw [if_neg clean]
      refine .failed (mt (Talk.accepted_of_ok answer).mp clean) fun detail fatal => ?_
      cases answer.symm.trans fatal
  | case2 detail after broke =>
    obtain ⟨fatal, rfl⟩ := Prod.mk.inj (said.symm.trans broke)
    exact ⟨_, rfl, .broke fatal⟩
  | case3 reports after silence =>
    obtain ⟨silent, rfl⟩ := Prod.mk.inj (said.symm.trans silence)
    refine ⟨_, rfl, ?_⟩
    by_cases sentry : command.family = .sentry
    · rw [if_pos sentry]
      exact .handled (.silent (named ▸ sentry) silent)
    · rw [if_neg sentry]
      refine .failed (fun accepted => ?_) fun detail fatal => ?_
      · cases accepted with
        | replied answer => cases silent.symm.trans answer
        | silent sentry' => exact sentry (named ▸ sentry')
      · cases silent.symm.trans fatal
  | case4 fault after soft other refused =>
    obtain ⟨failed, rfl⟩ := Prod.mk.inj (said.symm.trans refused)
    refine ⟨_, rfl, .failed (fun accepted => ?_) fun detail fatal => ?_⟩
    · cases accepted with
      | replied answer => cases failed.symm.trans answer
      | silent _ silence => exact other _ (Except.error.inj (failed.symm.trans silence))
    · exact soft _ (Except.error.inj (failed.symm.trans fatal))

/-- **How the frames of a command are sent.** -/
theorem sendFrames_sent (commands : List Command) (m : Monitor σ) :
    ∃ talks link status, sendFrames commands m = (status, m.behind talks link) ∧
      m.link.Carries talks link ∧ Sent commands talks status := by
  have nothing : ∀ talk ∈ ([] : List (Talk σ)), talk.Accepted := by simp
  fun_induction sendFrames commands m with
  | case1 m => exact ⟨[], m.link, _, rfl, .done m.link, .whole nothing⟩
  | case2 command rest m after sent ih =>
    obtain ⟨status, ends, judged⟩ := m.sendFrame_judged command
    obtain ⟨rfl, rfl⟩ := Prod.mk.inj (ends.symm.trans sent)
    obtain ⟨talks, link, status, ended, carried, shape⟩ := ih
    refine ⟨m.talk command :: talks, link, status, ?_, .next command carried,
      shape.after (judged.accepted_iff.mpr rfl)⟩
    rw [ended]
    simp [behind, heard]
  | case3 command rest m outcome after unhandled sent =>
    obtain ⟨status, ends, judged⟩ := m.sendFrame_judged command
    obtain ⟨rfl, rfl⟩ := Prod.mk.inj (ends.symm.trans sent)
    refine ⟨[m.talk command], _, status, rfl, .next command (.done _), ?_⟩
    exact .cut nothing (fun accepted => unhandled (judged.accepted_iff.mp accepted)) judged rest

/-- A command of one frame is sent as this frame. -/
theorem run_single {m : Monitor σ} {command : InstantCommand} {frame : Command}
    (available : m.available command = true)
    (single : command.frames m.dialect.family m.dialect.mode m.settings.delays = [frame]) :
    m.run command = m.sendFrame frame := by
  unfold run
  rw [if_pos available, single]
  unfold sendFrames
  split
  · next after sent => rw [sent, sendFrames]
  · next outcome after _ sent => exact sent.symm

end Monitor

/-! ## Which commands are sent -/

namespace InstantCommand

/-- The commands that switch the output. -/
def switching : List String := ["load.off", "load.on", "load.off.delay", "load.on.delay"]

/-- The names of all commands. -/
def names : List String :=
  switching ++ ["shutdown.return", "shutdown.stop", "test.battery.start", "test.panel.start"]

theorem mem_all (command : InstantCommand) : command ∈ all := by
  cases command with
  | loadOff | loadOffDelay | loadOn | loadOnDelay => decide
  | shutdownReturn | shutdownStop | testPanelStart | testBatteryStart => decide

/-- Texts that are the same in lower case. -/
def Alike (a b : String) : Prop := a.toList.map Char.toLower = b.toList.map Char.toLower

theorem sameLetters_iff {a b : String} : sameLetters a b = true ↔ Alike a b := beq_iff_eq

/-- No two commands have names that differ in the case of their letters only. -/
theorem eq_of_alike {a b : InstantCommand} {text : String} (left : Alike a.name text)
    (right : Alike b.name text) : a = b := by
  have distinct : ∀ a ∈ all, ∀ b ∈ all,
      a.name.toList.map Char.toLower = b.name.toList.map Char.toLower → a = b := by decide
  exact distinct a a.mem_all b b.mem_all (left.trans right.symm)

theorem ofName?_eq_some_iff {text : String} {command : InstantCommand} :
    ofName? text = some command ↔ Alike command.name text := by
  rw [← sameLetters_iff]
  constructor
  · intro found
    have named := List.find?_some found
    exact named
  · intro named
    cases found : ofName? text with
    | none =>
      have unknown := List.find?_eq_none.mp found command command.mem_all
      exact absurd named unknown
    | some other =>
      have other_named := List.find?_some found
      rw [eq_of_alike (sameLetters_iff.mp other_named) (sameLetters_iff.mp named)]

/-- A unit of the family has something to carry out for every command that it supports. -/
theorem frames_begin {command : InstantCommand} {family : Family}
    (supported : command.supportedBy family = true) (mode : CheckMode) (delays : Delays) :
    ∃ first rest, command.frames family mode delays = first :: rest ∧ first.bytes ≠ [] := by
  cases family with
  | gpser =>
    refine ⟨(command.gpser delays).encode mode, [], rfl, ?_⟩
    simp [GpserCommand.encode]
  | sentry =>
    cases command with
    | testPanelStart => cases supported
    | loadOff | loadOffDelay | loadOn | loadOnDelay | shutdownReturn | shutdownStop
    | testBatteryStart => exact ⟨_, _, rfl, List.cons_ne_nil _ _⟩

theorem family_of_mem_frames {command : InstantCommand} {family : Family} {mode : CheckMode}
    {delays : Delays} {frame : Command} (member : frame ∈ command.frames family mode delays) :
    frame.family = family := by
  cases family with
  | gpser =>
    obtain rfl := List.mem_singleton.mp member
    rfl
  | sentry =>
    obtain ⟨request, -, rfl⟩ := List.mem_map.mp member
    rfl

end InstantCommand

theorem Snapshot.onBattery_flags (s : Snapshot) : s.flags.onBattery = testBit s.status.bytes 1 :=
  rfl

namespace Monitor

variable [Device σ]

/-- **What a command comes to.** A command that the family has and the power state allows is sent
frame by frame, up to the first frame that is not accepted. It is handled if all of its frames were
sent and accepted, a fatal fault of the last frame sent breaks it off, and otherwise it failed. -/
theorem run_handled_iff (m : Monitor σ) (command : InstantCommand)
    (supported : command.supportedBy m.dialect.family = true)
    (allowed : command.allowed m.snapshot.flags.onBattery = true) :
    let frames := command.frames m.dialect.family m.dialect.mode m.settings.delays
    let got := m.run command
    ∃ talks link, got.2 = m.behind talks link ∧ m.link.Carries talks link ∧
      talks.map Talk.command <+: frames ∧
      (∀ talk ∈ talks, talk.command.family = m.dialect.family) ∧
      (∀ talk ∈ talks.dropLast, talk.Accepted) ∧
      (talks.map Talk.command = frames ∨ ∃ last, talks.getLast? = some last ∧ ¬last.Accepted) ∧
      (got.1 = .ok .handled ↔ talks.map Talk.command = frames ∧ ∀ talk ∈ talks, talk.Accepted) ∧
      (∀ detail, got.1 = .error (.fatal detail) ↔
        ∃ last, talks.getLast? = some last ∧ last.outcome = .error (.fatal detail)) ∧
      (got.1 = .ok .handled ∨ got.1 = .ok .failed ∨ ∃ detail, got.1 = .error (.fatal detail)) := by
  intro frames got
  have available : m.available command = true := by
    rw [Monitor.available, supported, allowed]
    rfl
  obtain ⟨talks, link, status, ended, carried, sent⟩ := sendFrames_sent frames m
  have ends : got = (status, m.behind talks link) := by
    simp only [got, run, if_pos available]
    exact ended
  have spoken : ∀ talk ∈ talks, talk.command.family = m.dialect.family := by
    intro talk member
    apply InstantCommand.family_of_mem_frames
    exact sent.in_order.subset (List.mem_map_of_mem member)
  rw [ends]
  exact ⟨talks, link, rfl, carried, sent.in_order, spoken, sent.accepted_before,
    sent.whole_or_refused, sent.handled_iff, sent.fatal_iff, sent.status_cases⟩

/-- A SENTRY unit takes the first frame of a restart in silence, and the read behind the second
fails. That is not the silence of a unit, so the command failed half sent. -/
theorem restart_half_accepted :
    let late : Except Fault Bytes := .error (.usb .timedOut "no report")
    let bench : Bench := { reads := [.ok Bench.idleReport, late] }
    let link : Link Bench :=
      { bus := { device := bench }, matcher := ⟨0x04B4, 0x5500, none, none⟩,
        settings := { maxReports := 1 } }
    let m := ofLink link { family := .sentry }
    let got := m.run .loadOn
    InstantCommand.loadOn.supportedBy m.dialect.family = true ∧
      InstantCommand.loadOn.allowed m.snapshot.flags.onBattery = true ∧ got.1 = .ok .failed ∧
      ∃ first second, got.2.talks = [second, first] ∧ first.Accepted ∧ ¬second.Accepted := by
  intro late bench link m got
  have failed : got.1 = .ok .failed := by decide +kernel
  have count : got.2.talks.length = 2 := by decide +kernel
  obtain ⟨talks, after, ends, -, -, -, early, stops, handled, -⟩ :=
    run_handled_iff m .loadOn (by decide) (by decide)
  refine ⟨by decide, by decide, failed, ?_⟩
  have recorded : got.2.talks = talks.reverse := by
    rw [ends]
    exact List.append_nil _
  rw [recorded, List.length_reverse] at count
  obtain ⟨first, second, rfl⟩ := List.length_eq_two.mp count
  have accepted : first.Accepted := early first (by simp)
  refine ⟨first, second, recorded, accepted, fun accepted' => ?_⟩
  have whole := stops.resolve_right (by simpa using accepted')
  cases failed.symm.trans (handled.mpr ⟨whole, by simpa using ⟨accepted, accepted'⟩⟩)

end Monitor

namespace Monitor

/-- Why a name is refused: no command has it, the family lacks the command, or the status that was
read last rules it out. -/
inductive Refuses (m : Monitor σ) (name : String) : Prop
  | unnamed (other : ∀ known ∈ InstantCommand.names, ¬InstantCommand.Alike known name)
  | lacking (named : InstantCommand.Alike "test.panel.start" name)
      (sentry : m.dialect.family = .sentry)
  | onBattery {known : String} (switches : known ∈ InstantCommand.switching)
      (named : InstantCommand.Alike known name)
      (battery : testBit m.snapshot.status.bytes 1 = true)
  | onLine (named : InstantCommand.Alike "shutdown.return" name)
      (line : testBit m.snapshot.status.bytes 1 = false)

section
open InstantCommand

theorem refuses_of_unnamed {name : String} (unknown : ofName? name = none) (m : Monitor σ) :
    Refuses m name := by
  have others : ∀ command ∈ all, ¬Alike command.name name := by
    simpa only [ofName?, List.find?_eq_none, sameLetters_iff] using unknown
  refine .unnamed fun known listed => ?_
  have told : known ∈ all.map InstantCommand.name := by
    revert known
    decide
  obtain ⟨command, member, rfl⟩ := List.mem_map.mp told
  exact others command member

/-- A name is refused if the command that has it is not available, and only then. -/
theorem refuses_iff {name : String} {command : InstantCommand}
    (named : Alike command.name name) (m : Monitor σ) :
    Refuses m name ↔ m.available command = false := by
  constructor
  · intro refused
    cases refused with
    | unnamed other =>
      have listed : command.name ∈ names := by cases command <;> decide
      exact absurd named (other _ listed)
    | lacking panel sentry =>
      obtain rfl : command = .testPanelStart := eq_of_alike named panel
      simp [available, supportedBy, sentry]
    | @onBattery known switches named' battery =>
      have told : known ∈ [loadOff, loadOn, loadOffDelay, loadOnDelay].map InstantCommand.name :=
        switches
      obtain ⟨other, member, rfl⟩ := List.mem_map.mp told
      obtain rfl : command = other := eq_of_alike named named'
      simp only [List.mem_cons, List.not_mem_nil, or_false] at member
      rcases member with rfl | rfl | rfl | rfl
      all_goals simp [available, allowed, Snapshot.onBattery_flags, battery]
    | onLine named' line =>
      obtain rfl : command = .shutdownReturn := eq_of_alike named named'
      simp [available, allowed, Snapshot.onBattery_flags, line]
  · intro unavailable
    cases command with
    | loadOff | loadOffDelay | loadOn | loadOnDelay =>
      refine .onBattery (by decide) named ?_
      simpa [available, supportedBy, allowed, Snapshot.onBattery_flags] using unavailable
    | shutdownReturn =>
      refine .onLine named ?_
      simpa [available, supportedBy, allowed, Snapshot.onBattery_flags] using unavailable
    | testPanelStart =>
      refine .lacking named ?_
      simpa [available, supportedBy, allowed] using unavailable
    | shutdownStop | testBatteryStart =>
      simp [available, supportedBy, allowed] at unavailable

end

variable [Device σ]

/-- **Which names are refused, and what becomes of the others.** A name that is refused touches
nothing at all. For any other name the link carries out frames of the command, at least the first
of them, and the device is called; what comes of it is a verdict on the unit or a fatal fault. -/
theorem instant_unknown_iff (m : Monitor σ) (name : String) :
    let got := m.instant name
    (got.1 = .ok .unknown ↔ Refuses m name) ∧
    (Refuses m name → got.2 = m) ∧
    (¬Refuses m name →
      (∃ (command : InstantCommand) (first : Talk σ) (later : List (Talk σ)),
        InstantCommand.Alike command.name name ∧
        (first :: later).map Talk.command <+:
          command.frames m.dialect.family m.dialect.mode m.settings.delays ∧
        m.link.Carries (first :: later) got.2.link) ∧
      m.link.bus.calls.length < got.2.link.bus.calls.length ∧
      (got.1 = .ok .handled ∨ got.1 = .ok .failed ∨
        ∃ detail, got.1 = .error (.fatal detail))) := by
  intro got
  cases found : InstantCommand.ofName? name with
  | none =>
    have ends : got = (.ok .unknown, m) := by simp only [got, instant, found]
    have refused := refuses_of_unnamed found m
    rw [ends]
    exact ⟨iff_of_true rfl refused, fun _ => rfl, fun free => absurd refused free⟩
  | some command =>
    have named := InstantCommand.ofName?_eq_some_iff.mp found
    have runs : got = m.run command := by simp only [got, instant, found]
    by_cases available : m.available command
    · have free : ¬Refuses m name := by simp [refuses_iff named, available]
      have supported : command.supportedBy m.dialect.family = true := by
        simp only [Monitor.available, Bool.and_eq_true] at available
        exact available.1
      obtain ⟨first, rest, frames, something⟩ :=
        InstantCommand.frames_begin supported m.dialect.mode m.settings.delays
      obtain ⟨talks, link, status, ended, carried, sent⟩ := sendFrames_sent (first :: rest) m
      have ends : got = (status, m.behind talks link) := by
        rw [runs, run, if_pos available, frames, ended]
      obtain ⟨talk, later, rfl, asked⟩ := sent.begins
      rw [ends]
      refine ⟨iff_of_false ?_ free, fun refused => absurd refused free, fun _ => ⟨?_, ?_, ?_⟩⟩
      · intro unknown
        rcases sent.status_cases with same | same | ⟨detail, same⟩
        all_goals cases unknown.symm.trans same
      · exact ⟨command, talk, later, named, frames ▸ sent.in_order, carried⟩
      · exact carried.calls_length_lt (asked ▸ something)
      · exact sent.status_cases
    · have refused : Refuses m name := by simp [refuses_iff named, available]
      have ends : got = (.ok .unknown, m) := by rw [runs, run, if_neg available]
      rw [ends]
      exact ⟨iff_of_true rfl refused, fun _ => rfl, fun free => absurd refused free⟩

end Monitor

end UpsMonitor
