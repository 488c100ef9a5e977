import UpsMonitor.Proofs.Monitor.Negotiation
import UpsMonitor.Proofs.Publishing
import UpsMonitor.Proofs.Usb.Telemetry

/-!
# Powers

Only one kind of reply carries the powers of the output phases, and only GPSER units give it. Main
statements:

* `power_told_iff`: when powers are published, and which;
* `move_measured`: in every state the powers that are known are those that were measured last;
* `poll_tells_last_powers`: a poll of a GPSER unit publishes the powers that it was told itself, and
  a poll of a SENTRY unit those that are known from before.
-/

namespace UpsMonitor

open Publishing (long)

variable {σ : Type}

/-- The powers of the output phases, in volt-amperes and in watts. -/
structure OutputPower where
  apparent : PerPhase UInt32
  real : PerPhase UInt32
  deriving DecidableEq

namespace OutputPower

def keys : List String :=
  ["output.L1.power", "output.L2.power", "output.L3.power", "output.L1.realpower",
    "output.L2.realpower", "output.L3.realpower"]

/-- What powers are published as, one text for each key. -/
def entries (power : OutputPower) : List (String × String) :=
  [("output.L1.power", long power.apparent.l1), ("output.L2.power", long power.apparent.l2),
    ("output.L3.power", long power.apparent.l3), ("output.L1.realpower", long power.real.l1),
    ("output.L2.realpower", long power.real.l2), ("output.L3.realpower", long power.real.l3)]

/-- What is known before anything was measured. -/
def unmeasured : OutputPower := ⟨.all 0, .all 0⟩

end OutputPower

def Snapshot.outputPower (s : Snapshot) : OutputPower := ⟨s.power, s.realPower⟩

def ExtendedReply.outputPower (reply : ExtendedReply) : OutputPower := ⟨reply.power, reply.realPower⟩

/-- No other reply touches the powers. -/
theorem Reply.power_of_silent {kind : Reply} {frame : Bytes} {s after : Snapshot}
    (silent : kind ≠ .extended) (read : kind.decode frame s = .ok after) :
    after.outputPower = s.outputPower := by
  cases kind with
  | extended => exact absurd rfl silent
  | identity | nominal | status | statusCodes =>
    obtain ⟨reply, -, rfl⟩ := map_eq_ok_iff.mp read
    rfl
  | telemetry level =>
    simp only [decode, Sentry.decode] at read
    split at read
    · cases read
      rfl
    · cases read

/-! ## When powers are published -/

namespace Publishing

theorem keys_perPhase (stem ending : String) (values : PerPhase String) :
    (Notice.entries (perPhase stem ending values)).map Prod.fst =
      [stem ++ "L1" ++ ending, stem ++ "L2" ++ ending, stem ++ "L3" ++ ending] :=
  rfl

theorem common_told (s : Snapshot) : (Notice.entries (common s)).map Prod.fst ⊆ commonKeys := by
  unfold common
  split
  · simp [Notice.entries, Notice.entry?, commonKeys]
  · simp [Notice.entries, Notice.entry?, commonKeys]

theorem input_told (layout : PhaseLayout) (s : Snapshot) :
    (Notice.entries (input layout s)).map Prod.fst ⊆ inputKeys := by
  unfold input
  split
  · simp [Notice.entries, Notice.entry?, inputKeys]
  · rw [Notice.entries_append, List.map_append, keys_perPhase, keys_perPhase]
    decide

theorem output_told (layout : PhaseLayout) (s : Snapshot) :
    (Notice.entries (output layout s)).map Prod.fst ⊆ outputKeys := by
  unfold output
  split
  · simp [Notice.entries, Notice.entry?, outputKeys]
  · have load : (Notice.entries [.info "ups.load" (long (meanLoad s.load))]).map Prod.fst =
        ["ups.load"] := rfl
    simp only [Notice.entries_append, List.map_append, keys_perPhase, load]
    decide

theorem powers_told (s : Snapshot) :
    ∃ currents, Notice.entries (powers s) = s.outputPower.entries ++ currents ∧
      currents.map Prod.fst = ["output.L1.current", "output.L2.current", "output.L3.current"] :=
  ⟨_, rfl, rfl⟩

/-- **When powers are published.** They stand under keys of their own. -/
theorem power_told_iff (layout : PhaseLayout) (extended : Bool) (s : Snapshot) {key value : String}
    (power : key ∈ OutputPower.keys) :
    .info key value ∈ status layout extended s ↔
      extended = true ∧ (key, value) ∈ s.outputPower.entries := by
  have apart : ∀ key ∈ OutputPower.keys, key ∉ commonKeys ∧ key ∉ inputKeys ∧ key ∉ outputKeys ∧
      key ∉ ["output.L1.current", "output.L2.current", "output.L3.current"] := by
    decide
  obtain ⟨not_common, not_input, not_output, not_current⟩ := apart key power
  have untold {told : List Notice} {others : List String}
      (among : (Notice.entries told).map Prod.fst ⊆ others) (other : key ∉ others) :
      (key, value) ∉ Notice.entries told :=
    fun member => other (among (List.mem_map_of_mem member))
  have tokens : Notice.entries [.status s.flags.tokens] = [] := rfl
  rw [← Notice.mem_entries_iff]
  unfold status
  simp only [Notice.entries_append, List.mem_append, untold (common_told s) not_common,
    untold (input_told layout s) not_input, untold (output_told layout s) not_output, tokens,
    List.not_mem_nil, false_or]
  cases extended with
  | false => simp [Notice.entries]
  | true =>
    obtain ⟨currents, told, current_keys⟩ := powers_told s
    have no_current : (key, value) ∉ currents := fun member =>
      not_current (current_keys ▸ List.mem_map_of_mem member)
    rw [if_pos rfl, told, List.mem_append]
    simp only [no_current, or_false, true_and]

end Publishing

/-! ## What is measured -/

/-- The powers that were brought, if they were asked for and the reply was clean and holds them. -/
def Talk.power? (talk : Talk σ) : Option OutputPower :=
  match talk.outcome with
  | .ok frame =>
    if talk.command.name = GpserCommand.readExtended.name ∧ frame.clean = true then
      (ExtendedReply.ofFrame frame.bytes).toOption.map ExtendedReply.outputPower
    else none
  | .error _ => none

/-- The powers of the latest talk that brought some. -/
def broughtPower? (talks : List (Talk σ)) : Option OutputPower := talks.findSome? Talk.power?

/-- The powers that are known behind some talks, the latest first. -/
def heldPower (talks : List (Talk σ)) : OutputPower := (broughtPower? talks).getD .unmeasured

@[simp] theorem broughtPower?_singleton (talk : Talk σ) : broughtPower? [talk] = talk.power? :=
  List.findSome?_singleton

theorem broughtPower?_append (later talks : List (Talk σ)) :
    broughtPower? (later ++ talks) = (broughtPower? later).or (broughtPower? talks) :=
  List.findSome?_append

theorem heldPower_append (later talks : List (Talk σ)) :
    heldPower (later ++ talks) = (broughtPower? later).getD (heldPower talks) := by
  unfold heldPower
  rw [broughtPower?_append, Option.getD_or]

theorem Talk.power?_of_name {talk : Talk σ}
    (other : talk.command.name ≠ GpserCommand.readExtended.name) : talk.power? = none := by
  unfold power?
  split
  · rw [if_neg fun both => other both.1]
  · rfl

theorem Reply.Answers.name_ne {kind : Reply} {command : Command} (answers : kind.Answers command)
    (silent : kind ≠ .extended) : command.name ≠ GpserCommand.readExtended.name := by
  cases answers with
  | extended => exact absurd rfl silent
  | identity | nominal | status | statusCodes =>
    simp [GpserCommand.encode, GpserCommand.name]
  | basic | telemetry => simp [SentryCommand.encode, SentryCommand.name, GpserCommand.name]

namespace Monitor

variable [Device σ] {m after : Monitor σ}

/-- Asking for powers brings them if anything is read. -/
theorem ask_extended (m : Monitor σ) (mode : CheckMode) :
    let talk := m.talk (GpserCommand.readExtended.encode mode)
    let got := m.ask (GpserCommand.readExtended.encode mode) .extended
    (∃ frame, got.1 = .ok frame ∧ talk.power? = some got.2.snapshot.outputPower) ∨
      ∃ fault, got = (.error fault, m.heard talk) ∧ talk.power? = none := by
  intro talk got
  have named : talk.command.name = GpserCommand.readExtended.name := rfl
  obtain ⟨⟨frame, answer, accepted, intact, -⟩, other, s, answer', read, ends⟩ |
    ⟨unheard, fault, ends, -⟩ :=
      m.ask_brings (GpserCommand.readExtended.encode mode) .extended
  · obtain rfl : frame = other := Except.ok.inj (answer.symm.trans answer')
    obtain ⟨reply, told, rfl⟩ := map_eq_ok_iff.mp read
    have clean := Frame.clean_iff.mpr ⟨accepted, intact⟩
    left
    refine ⟨frame, by simp only [got, ends], ?_⟩
    simp only [got, ends, Talk.power?, talk, answer, clean, and_true, told]
    rfl
  · right
    refine ⟨fault, ends, ?_⟩
    cases answer : talk.outcome with
    | error fault => simp only [Talk.power?, answer]
    | ok frame =>
      by_cases clean : frame.clean = true
      · have short : ¬ExtendedReply.needed ≤ frame.bytes.length := by
          intro long
          obtain ⟨accepted, intact⟩ := Frame.clean_iff.mp clean
          exact unheard ⟨frame, answer, accepted, intact, long⟩
        simp only [Talk.power?, answer, named, clean, and_self, if_true, ExtendedReply.ofFrame,
          if_neg short]
        rfl
      · simp only [Talk.power?, answer, clean, and_false, if_false, Bool.false_eq_true]

/-- Asking for anything else leaves the powers alone. -/
theorem ask_silent {command : Command} {kind : Reply} (silent : kind ≠ .extended) :
    (m.ask command kind).2.snapshot.outputPower = m.snapshot.outputPower := by
  obtain ⟨frame, s, -, -, -, read, ends⟩ | ⟨fault, ends, -⟩ := m.ask_cases command kind
  · rw [ends]
    exact Reply.power_of_silent silent read
  · rw [ends]
    rfl

/-- **What asking does to the powers.** -/
theorem ask_power {command : Command} {kind : Reply} (answers : kind.Answers command) :
    (m.ask command kind).2.snapshot.outputPower =
      (m.talk command).power?.getD m.snapshot.outputPower := by
  by_cases extended : kind = .extended
  · subst extended
    cases answers with
    | extended mode =>
      obtain ⟨frame, -, told⟩ | ⟨fault, ends, untold⟩ := m.ask_extended mode
      · rw [told]
        rfl
      · rw [ends, untold]
        rfl
  · have other : (m.talk command).command.name ≠ GpserCommand.readExtended.name :=
      answers.name_ne extended
    rw [Talk.power?_of_name other]
    exact ask_silent extended

/-! ## What is known -/

/-- The powers that are known are those that were measured last. -/
def Measured (m : Monitor σ) : Prop := m.snapshot.outputPower = heldPower m.talks

omit [Device σ] in
/-- One more talk. -/
theorem Measured.talked {talk : Talk σ} (measured : Measured m)
    (recorded : after.talks = talk :: m.talks)
    (power : after.snapshot.outputPower = talk.power?.getD m.snapshot.outputPower) :
    Measured after := by
  rw [Measured, power, recorded, ← List.singleton_append, heldPower_append,
    broughtPower?_singleton, measured]

/-- **Every move keeps what was measured last.** -/
theorem move_measured (m after : Monitor σ) (move : Move m after) (measured : Measured m) :
    Measured after := by
  cases move with
  | relinked | published => exact measured
  | askedGpser =>
    apply measured.talked m.identifyGpser_talks
    rw [identifyGpser_snapshot]
    exact ask_power .identity
  | askedSentry =>
    apply measured.talked m.identifySentry_talks
    rw [identifySentry_snapshot]
    exact ask_power .basic
  | asked requests => exact measured.talked (ask_talks rfl) (ask_power requests.answers)
  | @sent command sends =>
    have other : (m.talk command).command.name ≠ GpserCommand.readExtended.name := by
      intro asks
      have named : command.name = "RE" := asks
      exact sends.asks_nothing (by simp [named])
    have kept : (m.carryOut command).2.snapshot.outputPower =
        (m.talk command).power?.getD m.snapshot.outputPower := by
      rw [Talk.power?_of_name other]
      rfl
    exact measured.talked rfl kept

theorem run_measured {link : Link σ} {settings : Settings} {steps : List (Step σ)}
    (run : Run (ofLink link settings) steps m) : Measured m := by
  have start : Measured (ofLink link settings) := rfl
  exact run_invariant move_measured start run

/-! ## What a poll is told -/

omit [Device σ] in
theorem Recognition.family {talk : Talk σ} {needed : Nat} {family : Family}
    {got : Except Fault Unit × Monitor σ} (tried : Recognition m talk needed family got)
    (spoken : m.dialect.family = family) : got.2.dialect.family = m.dialect.family := by
  cases tried with
  | found _ same => exact same.trans spoken.symm
  | refused => rfl

/-- Identifying a unit brings no powers, and does not change its family. -/
theorem identify_untold (m : Monitor σ) : ∃ talk, m.identify.2.talks = talk :: m.talks ∧
    talk.power? = none ∧ m.identify.2.dialect.family = m.dialect.family := by
  fun_cases identify m with
  | case1 gpser =>
    refine ⟨_, m.identifyGpser_talks, Talk.power?_of_name ?_, ?_⟩
    · exact Reply.Answers.identity.name_ne (by simp)
    · exact m.identifyGpser_recognition.family gpser
  | case2 sentry =>
    refine ⟨_, m.identifySentry_talks, Talk.power?_of_name ?_, ?_⟩
    · exact Reply.Answers.basic.name_ne (by simp)
    · exact m.identifySentry_recognition.family sentry

theorem ensureIdentified_untold (m : Monitor σ) :
    ∃ identifying, m.ensureIdentified.2.talks = identifying ++ m.talks ∧
      broughtPower? identifying = none ∧
      m.ensureIdentified.2.dialect.family = m.dialect.family := by
  fun_cases ensureIdentified m with
  | case1 | case2 => exact ⟨[], rfl, rfl, rfl⟩
  | case3 _ link opened reopened taken news ready untrusted =>
    obtain ⟨talk, recorded, untold, same⟩ := ready.identify_untold
    exact ⟨[talk], recorded, (broughtPower?_singleton talk).trans untold, same⟩

/-- Whoever asks a GPSER unit for powers knows whether it told them. -/
theorem readExtended_told (m : Monitor σ) {extended : Bool} :
    m.readExtended.1 = .ok extended →
      extended = (m.talk (GpserCommand.readExtended.encode m.dialect.mode)).power?.isSome := by
  have tells := m.ask_extended m.dialect.mode
  fun_cases readExtended m with
  | case1 frame known answer =>
    rw [answer] at tells
    obtain ⟨-, -, told⟩ | ⟨fault, ends, -⟩ := tells
    · intro asked
      cases asked
      rw [told]
      rfl
    · cases ends
  | case2 =>
    intro asked
    cases asked
  | case3 fault known _ answer =>
    rw [answer] at tells
    obtain ⟨frame, ends, -⟩ | ⟨-, -, untold⟩ := tells
    · cases ends
    · intro asked
      cases asked
      rw [untold]
      rfl

/-- What requests bring, and whether that is taken for powers: a GPSER unit tells them or not, and
whatever a SENTRY unit tells passes for them. -/
structure Informs (m : Monitor σ) (got : Except Fault Bool × Monitor σ) (talks : List (Talk σ)) :
    Prop where
  recorded : got.2.talks = talks ++ m.talks
  gpser : m.dialect.family = .gpser → ∀ extended, got.1 = .ok extended →
    extended = (broughtPower? talks).isSome
  sentry : m.dialect.family = .sentry → broughtPower? talks = none ∧
    ∀ extended, got.1 = .ok extended → extended = true

theorem readStatus_informs (m : Monitor σ) : ∃ talks, m.Informs m.readStatus talks := by
  have status_untold :
      (m.talk (GpserCommand.readStatus.encode m.dialect.mode)).power? = none :=
    Talk.power?_of_name ((Reply.Answers.status 0 m.dialect.mode).name_ne (by simp))
  have request_untold :
      broughtPower? [m.talk (SentryCommand.request m.dialect.extension).encode] = none := by
    rw [broughtPower?_singleton]
    exact Talk.power?_of_name ((Reply.Answers.telemetry m.dialect.extension).name_ne (by simp))
  fun_cases readStatus m with
  | case1 gpser fault known answer =>
    refine ⟨[_], ask_talks answer, fun _ extended asked => ?_, fun sentry => ?_⟩
    · cases asked
    · cases gpser.symm.trans sentry
  | case2 gpser frame known answer =>
    refine ⟨[_, _], known.readExtended_talks.trans (congrArg _ (ask_talks answer)), ?_, ?_⟩
    · intro _ extended asked
      rw [← List.singleton_append, broughtPower?_append, broughtPower?_singleton,
        broughtPower?_singleton, status_untold, Option.or_none]
      exact known.readExtended_told asked
    · intro sentry
      cases gpser.symm.trans sentry
  | case3 sentry fault known answer =>
    refine ⟨[_], ask_talks answer, fun gpser => ?_, fun _ => ⟨request_untold, ?_⟩⟩
    · cases gpser.symm.trans sentry
    · intro extended asked
      cases asked
  | case4 sentry frame known answer =>
    refine ⟨[_], ask_talks answer, fun gpser => ?_, fun _ => ⟨request_untold, ?_⟩⟩
    · cases gpser.symm.trans sentry
    · exact fun _ asked => (Except.ok.inj asked).symm

theorem refresh_informs (m : Monitor σ) : ∃ talks, m.Informs m.refresh talks := by
  obtain ⟨identifying, recorded, untold, same⟩ := m.ensureIdentified_untold
  fun_cases refresh m with
  | case1 fault ready refused =>
    rw [refused] at recorded
    refine ⟨identifying, recorded, fun _ extended asked => ?_, fun _ => ⟨untold, ?_⟩⟩
    · cases asked
    · intro extended asked
      cases asked
  | case2 _ ready identified =>
    rw [identified] at recorded same
    obtain ⟨talks, informs⟩ := ready.readStatus_informs
    have brought : broughtPower? (talks ++ identifying) = broughtPower? talks := by
      rw [broughtPower?_append, untold, Option.or_none]
    refine ⟨talks ++ identifying, ?_, ?_, ?_⟩
    · rw [informs.recorded, recorded, List.append_assoc]
    · rw [brought, ← same]
      exact informs.gpser
    · rw [brought, ← same]
      exact informs.sentry

/-! ## What a poll publishes -/

/-- Only a poll that brought fresh data publishes values. -/
theorem poll_news (m : Monitor σ) : ∃ news, m.poll.2.notices = news ++ m.notices ∧
    ∀ key value, .info key value ∈ news ↔ ∃ extended, m.refresh.1 = .ok extended ∧
      .info key value ∈
        Publishing.status m.refresh.2.dialect.layout extended m.refresh.2.snapshot := by
  obtain ⟨talks, account, -⟩ := m.refresh_learns
  have old : m.refresh.2.notices = m.notices := account.notices
  obtain ⟨extended, ended, polled⟩ | ⟨detail, failed, polled⟩ | ⟨fault, failed, -, polled⟩ :=
    m.poll_cases
  · have notices : m.poll.2.notices =
        (Publishing.status m.refresh.2.dialect.layout extended m.refresh.2.snapshot ++
          [Notice.ok]).reverse ++ m.notices := by
      rw [polled, ← old]
      rfl
    refine ⟨_, notices, fun key value => ?_⟩
    rw [ended, List.mem_reverse, List.mem_append]
    simp
  · refine ⟨[], by rw [polled]; exact old, fun key value => ?_⟩
    rw [failed]
    simp
  · refine ⟨_, by rw [polled, missed_notices, old], fun key value => ?_⟩
    rw [failed]
    split <;> simp

theorem poll_fresh_iff (m : Monitor σ) :
    m.poll.1 = .ok true ↔ ∃ extended, m.refresh.1 = .ok extended := by
  obtain ⟨extended, ended, polled⟩ | ⟨detail, failed, polled⟩ | ⟨fault, failed, -, polled⟩ :=
    m.poll_cases
  · simp [ended, polled]
  · simp [failed, polled]
  · simp [failed, polled]

/-- **Powers are published as they were measured last.** A poll of a GPSER unit publishes the powers
that it was told itself. No poll of a SENTRY unit is told any, and yet every one that succeeds
publishes those that some GPSER unit told before, or zeros. -/
theorem poll_tells_last_powers {link : Link σ} {settings : Settings} {steps : List (Step σ)}
    (run : Run (ofLink link settings) steps m) :
    ∃ talks news, m.poll.2.talks = talks ++ m.talks ∧ m.poll.2.notices = news ++ m.notices ∧
      (m.dialect.family = .gpser → ∀ key ∈ OutputPower.keys, ∀ value, .info key value ∈ news ↔
        m.poll.1 = .ok true ∧
          ∃ told, broughtPower? talks = some told ∧ (key, value) ∈ told.entries) ∧
      (m.dialect.family = .sentry → broughtPower? talks = none ∧
        ∀ key ∈ OutputPower.keys, ∀ value, .info key value ∈ news ↔
          m.poll.1 = .ok true ∧ (key, value) ∈ (heldPower m.talks).entries) := by
  obtain ⟨talks, informs⟩ := m.refresh_informs
  obtain ⟨news, notices, told⟩ := m.poll_news
  have measured : Measured m.refresh.2 := m.refresh_moves.invariant move_measured (run_measured run)
  have held : m.refresh.2.snapshot.outputPower =
      (broughtPower? talks).getD (heldPower m.talks) := by
    rw [measured, informs.recorded, heldPower_append]
  have published (key : String) (power : key ∈ OutputPower.keys) (value : String) :
      .info key value ∈ news ↔ ∃ extended, m.refresh.1 = .ok extended ∧ extended = true ∧
        (key, value) ∈ ((broughtPower? talks).getD (heldPower m.talks)).entries := by
    rw [told, ← held]
    simp only [Publishing.power_told_iff _ _ _ power]
  refine ⟨talks, news, m.poll_talks.trans informs.recorded, notices, ?_, ?_⟩
  · intro gpser key power value
    rw [published key power, m.poll_fresh_iff]
    constructor
    · rintro ⟨extended, ended, rfl, member⟩
      obtain ⟨latest, brought⟩ := Option.isSome_iff_exists.mp (informs.gpser gpser true ended).symm
      rw [brought] at member
      exact ⟨⟨true, ended⟩, latest, brought, member⟩
    · rintro ⟨⟨extended, ended⟩, latest, brought, member⟩
      have told := informs.gpser gpser extended ended
      rw [brought] at told ⊢
      exact ⟨extended, ended, told, member⟩
  · intro sentry
    obtain ⟨untold, passes⟩ := informs.sentry sentry
    refine ⟨untold, fun key power value => ?_⟩
    rw [published key power, m.poll_fresh_iff, untold]
    constructor
    · rintro ⟨extended, ended, -, member⟩
      exact ⟨⟨extended, ended⟩, member⟩
    · rintro ⟨⟨extended, ended⟩, member⟩
      exact ⟨extended, ended, passes extended ended, member⟩

/-- A loaded SENTRY unit, polled for the first time. -/
theorem zeros_pass_for_powers :
    let telemetry := Extension.only192.reply .sum (.replicate _ 0x2C)
    let bench := [telemetry, telemetry].foldl Bench.queueReply {}
    let link : Link Bench := { bus := { device := bench }, matcher := ⟨0x04B4, 0x5500, none, none⟩ }
    let m := ofLink link { family := .sentry }
    m.poll.1 = .ok true ∧ broughtPower? m.poll.2.talks = none ∧
      .info "output.L1.power" "0" ∈ m.poll.2.notices ∧
      m.poll.2.store.get? "ups.load" = some "44" := by
  intro telemetry bench link m
  obtain ⟨talks, news, recorded, notices, -, sentry⟩ :=
    poll_tells_last_powers (.start : Run m [] m)
  obtain ⟨untold, published⟩ := sentry rfl
  have all : m.poll.2.talks = talks := recorded.trans (List.append_nil talks)
  have fresh : m.poll.1 = .ok true := by decide +kernel
  refine ⟨fresh, all ▸ untold, ?_, by decide +kernel⟩
  rw [notices]
  apply List.mem_append_left
  exact (published "output.L1.power" (by decide) "0").mpr ⟨fresh, by decide⟩

end Monitor

end UpsMonitor
