import UpsMonitor.Proofs.Monitor.Detection
import UpsMonitor.Proofs.Monitor.Identification
import UpsMonitor.Proofs.Monitor.Moves

/-!
# Negotiation

The snapshot holds the identity block of the last reply that carried one, and how the monitor talks
follows from that block. Main statements:

* `ask_block`: what asking does to the block;
* `move_attuned`: every move keeps block, dialect and talks in agreement;
* `run_attuned`: so whatever is said to a unit once it is identified is said in the mode of the
  block that is held then.
-/

namespace UpsMonitor

variable {σ : Type}

/-! ## Identity blocks -/

namespace Reply

/-- Whether a reply carries an identity block. -/
def carriesBlock : Reply → Bool
  | identity | telemetry _ => true
  | nominal | status _ | extended | statusCodes => false

variable {kind : Reply} {frame : Bytes} {s after : Snapshot}

/-- A block is read alike onto every snapshot. -/
theorem block_of_decode (carries : kind.carriesBlock = true)
    (read : kind.decode frame s = .ok after) (other : Snapshot) :
    ∃ after', kind.decode frame other = .ok after' ∧ after'.identity = after.identity := by
  cases kind with
  | nominal | status | extended | statusCodes => cases carries
  | identity =>
    obtain ⟨reply, told, rfl⟩ := map_eq_ok_iff.mp read
    exact ⟨reply.apply other, map_eq_ok_iff.mpr ⟨reply, told, rfl⟩, rfl⟩
  | telemetry level =>
    simp only [decode, Sentry.decode] at read ⊢
    split at read
    · next long =>
      cases read
      exact ⟨_, dif_pos long, rfl⟩
    · cases read

theorem block_of_silent (silent : kind.carriesBlock = false)
    (read : kind.decode frame s = .ok after) : after.identity = s.identity := by
  cases kind with
  | identity | telemetry => cases silent
  | nominal | status | extended | statusCodes =>
    obtain ⟨reply, -, rfl⟩ := map_eq_ok_iff.mp read
    rfl

/-- The replies that carry an identity block, each with the command that asks for it. -/
def blocks : List (Command × Reply) :=
  [(GpserCommand.identify.encode .sum, identity),
    (SentryCommand.identify.encode, telemetry .only192),
    ((SentryCommand.request .only192).encode, telemetry .only192),
    ((SentryCommand.request .also240).encode, telemetry .also240),
    ((SentryCommand.request .ext176).encode, telemetry .ext176)]

theorem lookup_of_answers {command : Command} (answers : kind.Answers command) :
    blocks.lookup command = if kind.carriesBlock then some kind else none := by
  cases answers with
  | identity | basic => rfl
  | nominal mode | status _ mode | extended mode | statusCodes mode => cases mode <;> rfl
  | telemetry level => cases level <;> rfl

theorem lookup_of_name {command : Command}
    (other : command.name ∉ ["GI", "identify", "request"]) : blocks.lookup command = none := by
  apply List.lookup_eq_none_iff.mpr
  intro entry member
  have named : entry.1.name ∈ ["GI", "identify", "request"] := by
    revert entry
    decide
  apply bne_iff_ne.mpr
  rintro rfl
  exact other named

end Reply

namespace Talk

/-- The identity block that was brought, if the reply was clean and carries one. -/
def block? (talk : Talk σ) : Option (Vector UInt8 12) :=
  match talk.outcome, Reply.blocks.lookup talk.command with
  | .ok frame, some kind =>
    if frame.clean then (kind.decode frame.bytes {}).toOption.map Snapshot.identity else none
  | _, _ => none

/-- A GPSER command other than identification that was put into a mode, and its reply was checked in
that mode. -/
structure InMode (talk : Talk σ) (mode : CheckMode) : Prop where
  encoded : ∃ request : GpserCommand, request ≠ .identify ∧ talk.command = request.encode mode
  verified : ∀ frame, talk.outcome = .ok frame →
    frame.badChecksum = !Checksum.verify .gpser mode frame.bytes

end Talk

/-- The block of the latest talk that brought one, or else what a snapshot holds at first. -/
def heldBlock (talks : List (Talk σ)) : Vector UInt8 12 :=
  (talks.findSome? Talk.block?).getD (Snapshot.identity {})

theorem heldBlock_cons (talk : Talk σ) (talks : List (Talk σ)) :
    heldBlock (talk :: talks) = talk.block?.getD (heldBlock talks) := by
  unfold heldBlock
  rw [← List.singleton_append, List.findSome?_append, List.findSome?_singleton, Option.getD_or]

namespace Talk

variable {talk : Talk σ} {kind : Reply} {frame : Frame}

theorem block?_of_clean (answer : talk.outcome = .ok frame) (clean : frame.clean = true)
    (listed : Reply.blocks.lookup talk.command = some kind) :
    talk.block? = (kind.decode frame.bytes {}).toOption.map Snapshot.identity := by
  simp only [block?, answer, listed, if_pos clean]

theorem block?_of_unlisted (unlisted : Reply.blocks.lookup talk.command = none) :
    talk.block? = none := by
  unfold block?
  split
  · next listed => cases unlisted.symm.trans listed
  · rfl

/-- Only what could have been read brings a block. -/
theorem block?_of_unheard (unheard : ¬talk.Brings kind.needed)
    (listed : Reply.blocks.lookup talk.command = some kind) : talk.block? = none := by
  cases answer : talk.outcome with
  | error fault => simp only [block?, answer]
  | ok frame =>
    by_cases clean : frame.clean
    · rw [block?_of_clean answer clean listed]
      cases read : kind.decode frame.bytes {} with
      | error fault => rfl
      | ok s =>
        obtain ⟨accepted, intact⟩ := Frame.clean_iff.mp clean
        have long := (kind.decode_iff_needed frame.bytes {}).mp ⟨s, read⟩
        exact absurd ⟨frame, answer, accepted, intact, long⟩ unheard
    · simp only [block?, answer, listed, if_neg clean]

end Talk

namespace Monitor

variable [Device σ]

/-- **What asking does to the block.** -/
theorem ask_block {m : Monitor σ} {command : Command} {kind : Reply}
    (answers : kind.Answers command) :
    (m.ask command kind).2.snapshot.identity =
      (m.talk command).block?.getD m.snapshot.identity := by
  have listed : Reply.blocks.lookup (m.talk command).command =
      if kind.carriesBlock then some kind else none := Reply.lookup_of_answers answers
  obtain ⟨⟨_, answer', accepted, intact, -⟩, frame, s, answer, read, ends⟩ |
    ⟨unheard, fault, ends, -⟩ := m.ask_brings command kind
  · obtain rfl := Except.ok.inj (answer'.symm.trans answer)
    rw [ends]
    cases carries : kind.carriesBlock with
    | true =>
      rw [carries] at listed
      obtain ⟨after, same, block⟩ := Reply.block_of_decode carries read {}
      rw [Talk.block?_of_clean answer (Frame.clean_iff.mpr ⟨accepted, intact⟩) listed, same]
      exact block.symm
    | false =>
      rw [carries] at listed
      rw [Talk.block?_of_unlisted listed]
      exact Reply.block_of_silent carries read
  · have none_brought : (m.talk command).block? = none := by
      cases carries : kind.carriesBlock with
      | true =>
        rw [carries] at listed
        exact Talk.block?_of_unheard unheard listed
      | false =>
        rw [carries] at listed
        exact Talk.block?_of_unlisted listed
    rw [ends, none_brought]
    rfl

/-! ## What is said in which mode -/

/-- A GPSER command goes out in the mode that was negotiated, unless it identifies the unit. -/
def Speaks (m : Monitor σ) (command : Command) : Prop :=
  command.family = .gpser → command ≠ GpserCommand.identify.encode .sum →
    m.dialect.family = .gpser ∧
      ∃ request : GpserCommand, request ≠ .identify ∧ command = request.encode m.dialect.mode

section
omit [Device σ]
variable {m : Monitor σ} {command : Command} {kind : Reply}

theorem Requests.speaks (requests : m.Requests command kind) : m.Speaks command := by
  intro gpser _
  cases requests with
  | nominal spoken => exact ⟨spoken, .readNominal, nofun, rfl⟩
  | status spoken => exact ⟨spoken, .readStatus, nofun, rfl⟩
  | extended spoken => exact ⟨spoken, .readExtended, nofun, rfl⟩
  | statusCodes spoken => exact ⟨spoken, .readStatusCodes, nofun, rfl⟩
  | telemetry => cases gpser

theorem Sends.speaks (sends : m.Sends command) : m.Speaks command := by
  obtain ⟨instant, member⟩ := sends
  intro gpser _
  have spoken : m.dialect.family = .gpser := by
    rw [← InstantCommand.family_of_mem_frames member, gpser]
  rw [spoken] at member
  refine ⟨spoken, instant.gpser m.settings.delays, ?_, List.mem_singleton.mp member⟩
  cases instant <;> exact nofun

/-- Once a unit is identified, it is not asked again who it is. -/
theorem Requests.name (requests : m.Requests command kind) :
    command.name ∉ ["GI", "identify"] := by
  cases requests with
  | nominal | status | extended | statusCodes => simp [GpserCommand.encode, GpserCommand.name]
  | telemetry => simp [SentryCommand.encode, SentryCommand.name]

/-- No instant command asks for data. -/
theorem Sends.asks_nothing (sends : m.Sends command) :
    command.name ∉ ["GI", "GN", "RS", "RE", "RC", "identify", "request"] := by
  obtain ⟨instant, member⟩ := sends
  cases spoken : m.dialect.family with
  | gpser =>
    rw [spoken] at member
    obtain rfl := List.mem_singleton.mp member
    cases instant <;>
      simp [InstantCommand.gpser, GpserCommand.encode, GpserCommand.name]
  | sentry =>
    rw [spoken] at member
    obtain ⟨request, listed, rfl⟩ := List.mem_map.mp member
    have silent : ∀ request ∈ instant.sentry m.settings.delays,
        request.expectsTelemetry = false := by
      cases instant <;> simp [InstantCommand.sentry, SentryCommand.expectsTelemetry]
    cases request with
    | identify | request => cases silent _ listed
    | shutdown | cancel | setReboot | reboot | batteryTest =>
      simp [SentryCommand.encode, SentryCommand.name]

theorem Sends.name (sends : m.Sends command) : command.name ∉ ["GI", "identify", "request"] := by
  have data : ["GI", "identify", "request"] ⊆
      ["GI", "GN", "RS", "RE", "RC", "identify", "request"] := by
    decide
  exact fun member => sends.asks_nothing (data member)

end

theorem talk_inMode (m : Monitor σ) {request : GpserCommand} (other : request ≠ .identify)
    (mode : CheckMode) : (m.talk (request.encode mode)).InMode mode := by
  refine ⟨⟨request, other, rfl⟩, fun frame answer => ?_⟩
  have kept : request.effectiveMode mode = mode := by
    cases request with
    | identify => exact absurd rfl other
    | readNominal | readStatus | readExtended | readStatusCodes => rfl
    | shutdown | restart | cancelShutdown | panelTest | batteryTest => rfl
  have judged := (Link.execute_frame answer).badChecksum
  rw [judged]
  simp only [GpserCommand.encode, kept]

/-! ## Identification -/

end Monitor

namespace Talk

variable {talk : Talk σ}

theorem Identifies.command (identifies : talk.Identifies) :
    talk.command = GpserCommand.identify.encode .sum ∨
      talk.command = SentryCommand.identify.encode := by
  obtain ⟨⟨kind, command, frame⟩, said, identity⟩ := identifies
  have same : command = talk.command := congrArg Prod.fst said
  rw [← same]
  rcases identity.kind with gpser | ⟨sentry, -⟩
  · left
    have answers := identity.clean.answers
    obtain rfl : kind = .identity := gpser
    cases answers
    rfl
  · right
    exact sentry

theorem Identifies.name (identifies : talk.Identifies) :
    talk.command.name ∈ ["GI", "identify"] := by
  rcases identifies.command with asked | asked
  · rw [asked]
    exact List.mem_cons_self ..
  · rw [asked]
    exact List.mem_cons_of_mem _ (List.mem_cons_self ..)

/-- A GPSER unit is identified by any clean reply that holds the whole of its identity. -/
theorem identifies_iff_brings (asked : talk.command = GpserCommand.identify.encode .sum) :
    talk.Identifies ↔ talk.Brings 68 := by
  constructor
  · rintro ⟨⟨kind, command, frame⟩, said, identity⟩
    have same : command = talk.command := congrArg Prod.fst said
    have answer : .ok frame = talk.outcome := congrArg Prod.snd said
    rcases identity.kind with gpser | ⟨sentry, -⟩
    · obtain rfl : kind = .identity := gpser
      obtain ⟨s, after, read⟩ := identity.read
      have long := (Reply.identity.decode_iff_needed frame.bytes s).mp ⟨after, read⟩
      exact ⟨frame, answer.symm, identity.clean.accepted, identity.clean.intact, long⟩
    · have other := congrArg Command.family (sentry.symm.trans (same.trans asked))
      cases other
  · rintro ⟨frame, answer, accepted, intact, long⟩
    have read := (Reply.identity.decode_iff_needed frame.bytes {}).mpr long
    have said : Reading.said ⟨.identity, GpserCommand.identify.encode .sum, frame⟩ = talk.said := by
      rw [said, asked, answer]
      rfl
    exact ⟨_, said, ⟨.identity, accepted, intact⟩, ⟨{}, read⟩, .inl rfl⟩

end Talk

namespace Monitor

variable [Device σ]

/-- Block, dialect and talks agree. -/
structure Attuned (m : Monitor σ) : Prop where
  block : m.snapshot.identity = heldBlock m.talks
  fits : (∃ talk ∈ m.talks, talk.Identifies) → m.dialect.Fits m.snapshot.identity
  spoken : ∀ talk earlier, talk :: earlier <:+ m.talks → (∃ before ∈ earlier, before.Identifies) →
    talk.command.family = .gpser → talk.command ≠ GpserCommand.identify.encode .sum →
    talk.InMode (.ofIdentity ((heldBlock earlier).get 4))

namespace Attuned

variable {m after : Monitor σ} {command : Command}

/-- One more talk, in the dialect that there is. -/
theorem talked (attuned : Attuned m) (speaks : m.Speaks command)
    (recorded : after.talks = m.talk command :: m.talks)
    (block : after.snapshot.identity = (m.talk command).block?.getD m.snapshot.identity)
    (new : (m.talk command).Identifies → after.dialect.Fits after.snapshot.identity)
    (old : m.dialect.Fits m.snapshot.identity → after.dialect.Fits after.snapshot.identity) :
    Attuned after := by
  constructor
  · rw [block, recorded, heldBlock_cons, attuned.block]
  · rw [recorded]
    rintro ⟨talk, member, identifies⟩
    cases member with
    | head => exact new identifies
    | tail _ member => exact old (attuned.fits ⟨talk, member, identifies⟩)
  · rw [recorded]
    intro talk earlier suffix identified gpser other
    -- Only the talk that is new has to be looked at, and it was held in the mode of the dialect.
    rcases List.suffix_cons_iff.mp suffix with same | suffix
    · obtain ⟨rfl, rfl⟩ := List.cons.inj same
      obtain ⟨family, request, free, rfl⟩ := speaks gpser other
      have mode := ((attuned.fits identified).gpser family).1
      rw [← attuned.block, ← mode]
      exact m.talk_inMode free m.dialect.mode
    · exact attuned.spoken talk earlier suffix identified gpser other

/-- A unit was asked who it is. -/
theorem recognized {needed : Nat} {family : Family} {got : Except Fault Unit × Monitor σ}
    (attuned : Attuned m) (tried : Recognition m (m.talk command) needed family got)
    (speaks : m.Speaks command)
    (block : got.2.snapshot.identity = (m.talk command).block?.getD m.snapshot.identity)
    (brings : (m.talk command).Identifies → (m.talk command).Brings needed) : Attuned got.2 := by
  cases tried with
  | found _ _ fits => exact attuned.talked speaks rfl block (fun _ => fits) (fun _ => fits)
  | refused unheard =>
    apply attuned.talked speaks rfl block
    · intro identifies
      exact absurd (brings identifies) unheard
    · exact id

end Attuned

theorem identifyGpser_snapshot (m : Monitor σ) : m.identifyGpser.2.snapshot =
    (m.ask (GpserCommand.identify.encode .sum) .identity).2.snapshot := by
  fun_cases identifyGpser m with
  | case1 _ after asked | case2 _ after asked => rw [asked]

theorem identifySentry_snapshot (m : Monitor σ) : m.identifySentry.2.snapshot =
    (m.ask SentryCommand.identify.encode (.telemetry .only192)).2.snapshot := by
  fun_cases identifySentry m with
  | case1 _ after asked | case2 _ after asked | case3 _ after asked => rw [asked]

theorem identifyGpser_attuned {m : Monitor σ} (attuned : Attuned m) :
    Attuned m.identifyGpser.2 := by
  apply attuned.recognized m.identifyGpser_recognition
  · intro _ other
    exact absurd rfl other
  · rw [identifyGpser_snapshot]
    exact ask_block .identity
  · exact (Talk.identifies_iff_brings rfl).mp

theorem identifySentry_attuned {m : Monitor σ} (attuned : Attuned m) :
    Attuned m.identifySentry.2 := by
  apply attuned.recognized m.identifySentry_recognition
  · intro gpser
    cases gpser
  · rw [identifySentry_snapshot]
    exact ask_block .basic
  · intro identifies
    exact (brings_iff_clean rfl).mpr identifies.unflagged

/-- The block of a GPSER unit comes with its identification and with nothing else. -/
theorem asked_fits {m : Monitor σ} {command : Command} {kind : Reply}
    (requests : m.Requests command kind) (fits : m.dialect.Fits m.snapshot.identity) :
    (m.ask command kind).2.dialect.Fits (m.ask command kind).2.snapshot.identity := by
  rw [ask_dialect]
  constructor
  · intro gpser
    have silent : kind.carriesBlock = false := by
      cases requests with
      | nominal | status | extended | statusCodes => rfl
      | telemetry sentry => cases gpser.symm.trans sentry
    have unlisted := Reply.lookup_of_answers requests.answers
    rw [silent] at unlisted
    rw [ask_block requests.answers, Talk.block?_of_unlisted unlisted]
    exact fits.gpser gpser
  · exact fits.sentry

/-- **Every move keeps block, dialect and talks in agreement.** -/
theorem move_attuned (m after : Monitor σ) (move : Move m after) (attuned : Attuned m) :
    Attuned after := by
  cases move with
  | relinked | published => exact ⟨attuned.block, attuned.fits, attuned.spoken⟩
  | askedGpser => exact identifyGpser_attuned attuned
  | askedSentry => exact identifySentry_attuned attuned
  | @asked command kind requests =>
    apply attuned.talked requests.speaks (ask_talks rfl) (ask_block requests.answers)
    · intro identifies
      exact absurd identifies.name requests.name
    · exact asked_fits requests
  | @sent command sends =>
    have unlisted : Reply.blocks.lookup (m.talk command).command = none :=
      Reply.lookup_of_name sends.name
    apply attuned.talked sends.speaks rfl
    · rw [Talk.block?_of_unlisted unlisted]
      rfl
    · intro identifies
      exact absurd (List.mem_append_left ["request"] identifies.name) sends.name
    · exact id

/-- **What is negotiated goes with the identity block.** In every state behind an identification the
mode and the layout follow from the block that the snapshot holds, and so did the mode of every
GPSER command that was sent in such a state, and of the reply to it. -/
theorem run_attuned {link : Link σ} {settings : Settings} {steps : List (Step σ)} {m : Monitor σ}
    (run : Run (ofLink link settings) steps m) :
    m.snapshot.identity = heldBlock m.talks ∧
    ((∃ talk ∈ m.talks, talk.Identifies) → m.dialect.Fits m.snapshot.identity) ∧
    ∀ talk earlier, talk :: earlier <:+ m.talks → (∃ before ∈ earlier, before.Identifies) →
      talk.command.family = .gpser → talk.command ≠ GpserCommand.identify.encode .sum →
      talk.InMode (.ofIdentity ((heldBlock earlier).get 4)) := by
  have start : Attuned (ofLink link settings) := by
    constructor
    · rfl
    · rintro ⟨talk, member, -⟩
      cases member
    · intro talk earlier suffix
      cases List.suffix_nil.mp suffix
  have attuned := run_invariant move_attuned start run
  exact ⟨attuned.block, attuned.fits, attuned.spoken⟩

/-- The identification of a unit that asks for the cyclic check. -/
def cyclicIdentity : Bytes :=
  let zeros (count : Nat) : Bytes := List.replicate count 0x30
  let content := Wire.replyHeader ++ GpserCommand.identify.opcode ++ zeros 50 ++ [0x31] ++ zeros 7
  Checksum.append .gpser .sum content ++ [Wire.etx]

/-- Such a unit is polled for the first time. -/
theorem polls_in_its_mode :
    let link : Link Bench :=
      { bus := { device := Bench.queueReply {} cyclicIdentity },
        matcher := ⟨0x04B4, 0x5500, none, none⟩ }
    let first := ofLink link {}
    ∃ m status identity, Run first [⟨first, .poll⟩] m ∧ m.talks = [status, identity] ∧
      identity.Identifies ∧ m.dialect.mode = .crc ∧ status.InMode .crc := by
  intro link first
  let whole (outcome : Except Fault Frame) : Bool :=
    outcome.toOption.any fun frame => frame.clean && !(frame.bytes.drop 67).isEmpty
  obtain ⟨m, run, family, crc, told⟩ : ∃ m, Run first [⟨first, .poll⟩] m ∧
      m.dialect.family = .gpser ∧ m.dialect.mode = .crc ∧
      m.talks.map (fun talk => (talk.command, whole talk.outcome)) =
        [(GpserCommand.readStatus.encode .crc, false),
          (GpserCommand.identify.encode .sum, true)] :=
    ⟨Operation.poll.perform first, .step .start .poll, by decide +kernel, by decide +kernel,
      by decide +kernel⟩
  obtain ⟨held, fits, spoken⟩ := run_attuned run
  obtain ⟨status, earlier, all, asked, old⟩ := List.map_eq_cons_iff.mp told
  obtain ⟨identity, none_before, rfl, said, nothing⟩ := List.map_eq_cons_iff.mp old
  obtain rfl := List.map_eq_nil_iff.mp nothing
  replace asked : status.command = GpserCommand.readStatus.encode .crc := congrArg Prod.fst asked
  have identifies : identity.Identifies := by
    apply (Talk.identifies_iff_brings (congrArg Prod.fst said)).mpr
    have brought : whole identity.outcome = true := congrArg Prod.snd said
    cases answer : identity.outcome with
    | error fault => simp [answer, whole, Except.toOption] at brought
    | ok frame =>
      have brought : frame.clean = true ∧ 67 < frame.bytes.length := by
        simpa [answer, whole, Except.toOption] using brought
      obtain ⟨accepted, intact⟩ := Frame.clean_iff.mp brought.1
      exact ⟨frame, answer, accepted, intact, brought.2⟩
  have unlisted : status.block? = none := by
    apply Talk.block?_of_unlisted
    rw [asked]
    rfl
  have mode := ((fits ⟨identity, by simp [all], identifies⟩).gpser family).1
  rw [held, all, heldBlock_cons, unlisted, Option.getD_none, crc] at mode
  refine ⟨m, status, identity, run, all, identifies, crc, ?_⟩
  rw [mode]
  apply spoken status [identity] (all ▸ List.suffix_rfl)
  · exact ⟨identity, List.mem_singleton_self _, identifies⟩
  · rw [asked]
    rfl
  · rw [asked]
    decide

end Monitor

end UpsMonitor
