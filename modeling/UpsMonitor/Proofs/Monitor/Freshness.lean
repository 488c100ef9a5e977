import UpsMonitor.Proofs.Monitor.Identification
import UpsMonitor.Proofs.Publishing
import UpsMonitor.Proofs.Reply.Decoding
import UpsMonitor.Proofs.Reply.Status
import UpsMonitor.Proofs.Status

/-!
# Freshness

What a poll of a GPSER unit publishes comes from the replies of this poll, whatever was known
before. Main statements:

* `readStatus_fresh`: what is published behind the requests for the status;
* `poll_publishes_fresh`: what a successful poll sends, and all that changes of what is published.
-/

namespace UpsMonitor

variable {σ : Type}

/-! ## What the talks of a poll tell -/

/-- What the reply to a request for powers and currents is published as. A reply that is not clean
or too short tells nothing. -/
inductive Talk.Powers (talk : Talk σ) : List (String × String) → Prop
  | told {frame : Frame} {reply : ExtendedReply} (answer : talk.outcome = .ok frame)
      (clean : frame.clean = true) (read : ExtendedReply.ofFrame frame.bytes = .ok reply) :
      Powers talk reply.entries
  | untold (nothing : ∀ frame, talk.outcome = .ok frame → frame.clean = true →
      frame.bytes.length < 70) : Powers talk []

/-- A request for the status and, behind it, one for powers and currents, with what is read of the
replies. The status is there, in the layout of the unit. -/
structure Inquiry (dialect : Dialect) (status last : Talk σ) (frame : Frame) (reply : StatusReply)
    (powers : List (String × String)) : Prop where
  asked : status.command = GpserCommand.readStatus.encode dialect.mode
  answer : status.outcome = .ok frame
  clean : frame.clean = true
  read : StatusReply.ofFrame dialect.layout.statusLength frame.bytes = .ok reply
  asked_powers : last.command = GpserCommand.readExtended.encode dialect.mode
  powers : last.Powers powers

/-- How a GPSER unit comes to its mode and layout: it is trusted to have those that it had, or they
are taken from its identity. -/
inductive Monitor.Settles (m after : Monitor σ) : List (Talk σ) → Prop
  | trusted (same : after.dialect = m.dialect) : Settles m after []
  | identified {talk : Talk σ} {frame : Frame}
      (asked : talk.command = GpserCommand.identify.encode .sum) (answer : talk.outcome = .ok frame)
      (clean : frame.clean = true)
      (layout : frame.bytes[51]?.map PhaseLayout.ofIdentity = some after.dialect.layout)
      (mode : frame.bytes[55]?.map CheckMode.ofIdentity = some after.dialect.mode) :
      Settles m after [talk]

theorem Talk.Powers.keys {talk : Talk σ} {powers : List (String × String)}
    (tells : talk.Powers powers) : (powers.map Prod.fst).Sublist Publishing.powerKeys := by
  cases tells with
  | told => exact List.Sublist.refl _
  | untold => exact List.nil_sublist _

namespace Monitor

theorem Settles.of_dialect {m ready after : Monitor σ} {talks : List (Talk σ)}
    (settles : Settles m ready talks) (same : after.dialect = ready.dialect) :
    Settles m after talks := by
  cases settles with
  | trusted kept => exact .trusted (same.trans kept)
  | identified asked answer clean layout mode =>
    exact .identified asked answer clean (same ▸ layout) (same ▸ mode)

variable [Device σ] {m after : Monitor σ}

/-! ## Asking -/

theorem decode_extended_of_long {frame : Bytes} (long : ExtendedReply.needed ≤ frame.length)
    (s : Snapshot) : ∃ reply, Reply.extended.decode frame s = .ok reply := by
  rw [Reply.decode, ExtendedReply.ofFrame, if_pos long]
  exact ⟨_, rfl⟩

/-- Powers and currents are laid over the status, and published if they came. -/
theorem readExtended_fresh {extended : Bool} (asked : m.readExtended = (.ok extended, after))
    {declared : Nat} {frame : Bytes} {reply : StatusReply} {s : Snapshot}
    (read : StatusReply.ofFrame declared frame = .ok reply) (known : m.snapshot = reply.apply s) :
    after.dialect = m.dialect ∧ ∃ powers,
      (m.talk (GpserCommand.readExtended.encode m.dialect.mode)).Powers powers ∧
      ∀ layout, Publishing.status layout extended after.snapshot =
        Notice.report (reply.entries layout (StatusReply.runtimeField frame))
          reply.code.flags.tokens powers := by
  obtain ⟨frame', s', answer, accepted, intact, read', ends⟩ | ⟨fault, ends, -⟩ :=
    m.ask_cases (GpserCommand.readExtended.encode m.dialect.mode) .extended
  · simp only [readExtended, ends] at asked
    cases asked
    obtain ⟨powers, told, rfl⟩ := map_eq_ok_iff.mp read'
    refine ⟨rfl, powers.entries, .told answer (Frame.clean_iff.mpr ⟨accepted, intact⟩) told, ?_⟩
    intro layout
    rw [← Publishing.status_of_replies read powers layout s, ← known]
  · have untold : ∀ frame : Frame,
        (m.talk (GpserCommand.readExtended.encode m.dialect.mode)).outcome = .ok frame →
        frame.clean = true → frame.bytes.length < ExtendedReply.needed := by
      intro frame answer clean
      by_contra long
      obtain ⟨s, read⟩ := decode_extended_of_long (Nat.le_of_not_lt long) m.snapshot
      cases ends.symm.trans (ask_of_clean answer clean read)
    have quiet : extended = false ∧ after = m.heard
        (m.talk (GpserCommand.readExtended.encode m.dialect.mode)) := by
      cases fault with
      | fatal => simp [readExtended, ends] at asked
      | usb | timeout | nak | badChecksum | insufficient | protocol | deviceNotFound =>
        simp only [readExtended, ends] at asked
        cases asked
        exact ⟨rfl, rfl⟩
    obtain ⟨rfl, rfl⟩ := quiet
    refine ⟨rfl, [], .untold untold, fun layout => ?_⟩
    have same : (m.heard (m.talk (GpserCommand.readExtended.encode m.dialect.mode))).snapshot =
        reply.apply s := known
    rw [same, Publishing.status_of_reply read layout s]

/-- **What is published behind the requests for the status.** -/
theorem readStatus_fresh {extended : Bool} (gpser : m.dialect.family = .gpser)
    (asked : m.readStatus = (.ok extended, after)) :
    after.dialect = m.dialect ∧ ∃ (status last : Talk σ) (frame : Frame) (reply : StatusReply)
      (powers : List (String × String)),
      after.talks = last :: status :: m.talks ∧
      Inquiry m.dialect status last frame reply powers ∧
      Publishing.status m.dialect.layout extended after.snapshot =
        Notice.report (reply.entries m.dialect.layout (StatusReply.runtimeField frame.bytes))
          reply.code.flags.tokens powers := by
  let status := m.talk (GpserCommand.readStatus.encode m.dialect.mode)
  obtain ⟨frame, s, answer, accepted, intact, read, ends⟩ | ⟨fault, ends, -⟩ :=
    m.ask_cases (GpserCommand.readStatus.encode m.dialect.mode)
      (.status m.dialect.layout.statusLength)
  · obtain ⟨reply, told, rfl⟩ := map_eq_ok_iff.mp read
    let known : Monitor σ := { m.heard status with snapshot := reply.apply m.snapshot }
    have rest : known.readExtended = (.ok extended, after) := by
      simpa only [readStatus, gpser, ends] using asked
    obtain ⟨same, powers, tells, published⟩ := readExtended_fresh rest told rfl
    have talks := known.readExtended_talks
    rw [rest] at talks
    have inquiry : Inquiry m.dialect status _ frame reply powers :=
      ⟨rfl, answer, Frame.clean_iff.mpr ⟨accepted, intact⟩, told, rfl, tells⟩
    exact ⟨same, status, _, frame, reply, powers, talks, inquiry, published _⟩
  · simp [readStatus, gpser, ends] at asked

/-! ## Identifying -/

omit [Device σ] in
/-- The bytes of an identity that tell the layout and the mode. -/
theorem identity_bytes {frame : Bytes} {s after : Snapshot}
    (read : Reply.identity.decode frame s = .ok after) :
    frame[51]? = some after.phasesByte ∧ frame[55]? = some after.modeByte := by
  obtain ⟨reply, told, rfl⟩ := map_eq_ok_iff.mp read
  unfold IdentityReply.ofFrame at told
  split at told
  · next long =>
    have long : 68 ≤ frame.length := long
    cases told
    constructor
    · simp [IdentityReply.apply, Snapshot.phasesByte]
    · simp [IdentityReply.apply, Snapshot.modeByte]
  · cases told

theorem identifyGpser_settles (found : m.identifyGpser.1 = .ok ()) (before : Monitor σ) :
    m.identifyGpser.2.dialect.family = .gpser ∧
      Settles before m.identifyGpser.2 [m.talk (GpserCommand.identify.encode .sum)] := by
  obtain ⟨frame, s, answer, accepted, intact, read, ends⟩ | ⟨fault, ends, -⟩ :=
    m.ask_cases (GpserCommand.identify.encode .sum) .identity
  · obtain ⟨phases, mode⟩ := identity_bytes read
    simp only [identifyGpser, ends]
    refine ⟨trivial, .identified rfl answer (Frame.clean_iff.mpr ⟨accepted, intact⟩) ?_ ?_⟩
    · rw [phases]
      rfl
    · rw [mode]
      rfl
  · simp [identifyGpser, ends] at found

theorem ensureIdentified_settles (gpser : m.dialect.family = .gpser)
    (ensured : m.ensureIdentified.1 = .ok ()) :
    m.ensureIdentified.2.dialect.family = .gpser ∧ ∃ identifying,
      m.ensureIdentified.2.talks = identifying ++ m.talks ∧
      Settles m m.ensureIdentified.2 identifying := by
  revert ensured
  fun_cases ensureIdentified m with
  | case1 =>
    intro ensured
    cases ensured
  | case2 => exact fun _ => ⟨gpser, [], rfl, .trusted rfl⟩
  | case3 _ link opened reopened taken news ready untrusted =>
    have same : ready.identify = ready.identifyGpser := by
      have family : ready.dialect.family = .gpser := gpser
      simp only [identify, family]
    rw [same]
    intro found
    obtain ⟨family, settles⟩ := identifyGpser_settles found m
    exact ⟨family, _, ready.identifyGpser_talks, settles⟩

/-! ## Polling -/

/-- **All of a poll but its end.** -/
theorem refresh_fresh {extended : Bool} (gpser : m.dialect.family = .gpser)
    (got : m.refresh = (.ok extended, after)) :
    ∃ (identifying : List (Talk σ)) (status last : Talk σ) (frame : Frame) (reply : StatusReply)
      (powers : List (String × String)),
      after.talks = last :: status :: (identifying ++ m.talks) ∧ Settles m after identifying ∧
      Inquiry after.dialect status last frame reply powers ∧
      Publishing.status after.dialect.layout extended after.snapshot =
        Notice.report (reply.entries after.dialect.layout (StatusReply.runtimeField frame.bytes))
          reply.code.flags.tokens powers := by
  obtain ⟨ready, ensured⟩ : ∃ ready, m.ensureIdentified = (.ok (), ready) := by
    cases ensured : m.ensureIdentified with
    | mk outcome ready =>
      cases outcome with
      | error fault => simp [refresh, ensured] at got
      | ok => exact ⟨ready, rfl⟩
  have settled := ensureIdentified_settles gpser (by rw [ensured])
  rw [ensured] at settled
  obtain ⟨family, identifying, talks, settles⟩ := settled
  have rest : ready.readStatus = (.ok extended, after) := by
    simpa only [refresh, ensured] using got
  obtain ⟨same, status, last, frame, reply, powers, talks', inquiry, published⟩ :=
    readStatus_fresh family rest
  rw [← same] at inquiry published
  rw [talks] at talks'
  exact ⟨identifying, status, last, frame, reply, powers, talks', settles.of_dialect same, inquiry,
    published⟩

/-- **A poll publishes what it was told,** and nothing else. -/
theorem poll_publishes_fresh {m : Monitor σ} (gpser : m.dialect.family = .gpser)
    (fresh : m.poll.1 = .ok true) :
    let after := m.poll.2
    ∃ (identifying : List (Talk σ)) (status last : Talk σ) (frame : Frame) (reply : StatusReply)
      (powers : List (String × String)) (news : List Notice),
      let told :=
        reply.entries after.dialect.layout (StatusReply.runtimeField frame.bytes) ++ powers
      after.talks = last :: status :: (identifying ++ m.talks) ∧ Settles m after identifying ∧
      Inquiry after.dialect status last frame reply powers ∧
      after.notices = news ++ m.notices ∧
      (∀ key value, .info key value ∈ news ↔ (key, value) ∈ told) ∧
      (∀ key value, (key, value) ∈ told → after.store.get? key = some value) ∧
      (∀ key, key ∉ told.map Prod.fst → after.store.get? key = m.store.get? key) ∧
      after.store.status = " ".intercalate reply.code.words ∧
      after.store.commands = m.store.commands ∧ after.failures.count = 0 ∧
      after.store.stale = false := by
  obtain ⟨extended, ended, polled⟩ | ⟨detail, -, polled⟩ | ⟨fault, -, -, polled⟩ := m.poll_cases
  · obtain ⟨known, got⟩ : ∃ known, m.refresh = (.ok extended, known) := ⟨_, Prod.ext ended rfl⟩
    obtain ⟨talks, account, -⟩ := m.refresh_learns
    rw [got] at account polled
    obtain ⟨identifying, status, last, frame, reply, powers, talked, settles, inquiry, published⟩ :=
      refresh_fresh gpser got
    let values := reply.entries known.dialect.layout (StatusReply.runtimeField frame.bytes)
    let report := Notice.report values reply.code.flags.tokens powers ++ [.ok]
    have store : (known.refreshed extended).store = m.store.applyAll report := by
      simp only [refreshed, post, published]
      rw [account.store]
      rfl
    have notices : (known.refreshed extended).notices = report.reverse ++ m.notices := by
      simp only [refreshed, post, published]
      rw [account.notices]
      rfl
    have once : ((values ++ powers).map Prod.fst).Nodup :=
      Publishing.keys_nodup known.dialect.layout _ reply inquiry.powers.keys
    have news (key value : String) :
        .info key value ∈ report.reverse ↔ (key, value) ∈ values ++ powers := by
      rw [List.mem_reverse, ← Notice.mem_entries_iff, Notice.entries_report]
    obtain ⟨told, kept, word, commands, quiet⟩ :=
      Store.applyAll_report once reply.code.flags.tokens m.store
    have told_by_bits := word.trans (congrArg (" ".intercalate ·) reply.code.tokens_eq_words)
    rw [polled]
    refine ⟨identifying, status, last, frame, reply, powers, report.reverse, talked,
      settles.of_dialect rfl, inquiry, notices, news, ?_⟩
    simp only [store]
    exact ⟨told, kept, told_by_bits, commands, rfl, quiet⟩
  · rw [polled] at fresh
    cases fresh
  · rw [polled] at fresh
    cases fresh

/-- A three-phase unit on battery with sixteen minutes left, polled for the first time. -/
theorem first_poll_is_fresh :
    let status : StatusReply := {
      code := { byte0 := 0x0B, byte1 := 0x02 }
      inputFrequency := 499, inputVoltage := ⟨228, 227, 226⟩
      outputFrequency := 500, outputVoltage := ⟨230, 231, 229⟩, load := ⟨30, 40, 51⟩
      bypassFrequency := 0, bypassVoltage := .all 0
      batteryVoltage := 272, charge := 98, runtime := 16, temperature := 31 }
    let powers := Checksum.sealed .sum (Wire.replyHeader ++ [0x52, 0x45] ++ List.replicate 60 0x30)
    let bench := [blankIdentity, status.wire 64 .sum, powers].foldl Bench.queueReply {}
    let link : Link Bench := { bus := { device := bench }, matcher := ⟨0x04B4, 0x5500, none, none⟩ }
    let m := ofLink link {}
    m.dialect.family = .gpser ∧ m.poll.1 = .ok true ∧ m.poll.2.failures.count = 0 ∧
    m.poll.2.store.stale = false ∧ m.poll.2.store.status = "OB LB BOOST" ∧
    ["battery.runtime", "battery.charge", "battery.voltage", "input.frequency",
      "input.L2-N.voltage", "ups.load", "output.L2.power", "output.L2.current"].map m.poll.2.store.get? =
      [some "960", some "98", some "27.2", some "49.90", some "227", some "40", some "0",
        some "0"] := by
  intro status powers bench link m
  have fresh : m.poll.1 = .ok true := by decide +kernel
  obtain ⟨_, _, _, _, _, _, _, -, -, -, -, -, -, -, -, -, count, quiet⟩ :=
    poll_publishes_fresh rfl fresh
  exact ⟨rfl, fresh, count, quiet, by decide +kernel, by decide +kernel⟩

end Monitor

end UpsMonitor
