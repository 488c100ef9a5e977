import UpsMonitor.Command.Instant
import UpsMonitor.Proofs.Monitor.Run

/-!
# What a monitor hears and publishes

An account of what happens to a monitor: which commands are carried out, which replies are read
onto the snapshot, and which notices are posted. Accounts of consecutive stretches join, and every
part of an operation has one. Main statements:

* `ask_cases`: a reply is read only if it is clean and long enough, and otherwise nothing is;
* `refresh_learns`: all of a poll but its end publishes nothing, and succeeds on a clean reply only.
-/

namespace UpsMonitor

/-! ## Replies that are read -/

/-- The commands that ask for each kind of reply. A SENTRY unit identifies itself in the basic
layout. -/
inductive Reply.Answers : Reply → Command → Prop
  | identity : Answers .identity (GpserCommand.identify.encode .sum)
  | nominal (mode : CheckMode) : Answers .nominal (GpserCommand.readNominal.encode mode)
  | status (declared : Nat) (mode : CheckMode) :
      Answers (.status declared) (GpserCommand.readStatus.encode mode)
  | extended (mode : CheckMode) : Answers .extended (GpserCommand.readExtended.encode mode)
  | statusCodes (mode : CheckMode) :
      Answers .statusCodes (GpserCommand.readStatusCodes.encode mode)
  | basic : Answers (.telemetry .only192) SentryCommand.identify.encode
  | telemetry (level : Extension) :
      Answers (.telemetry level) (SentryCommand.request level).encode

/-- A reply that was read, as the answer to a command. -/
structure Reading where
  kind : Reply
  command : Command
  frame : Frame

namespace Reading

/-- What was said for it. -/
def said (reading : Reading) : Command × Except Fault Frame := (reading.command, .ok reading.frame)

/-- Lays the reply over a snapshot. -/
def onto (s : Snapshot) (reading : Reading) : Except Fault Snapshot :=
  reading.kind.decode reading.frame.bytes s

/-- A reply that neither rejects its command nor fails its checksum. -/
structure Clean (reading : Reading) : Prop where
  answers : reading.kind.Answers reading.command
  accepted : reading.frame.nak = false
  intact : reading.frame.badChecksum = false

end Reading

namespace Talk

variable {σ : Type}

def said (talk : Talk σ) : Command × Except Fault Frame := (talk.command, talk.outcome)

/-- A talk that brought a frame without a flag. -/
def Clean (talk : Talk σ) : Prop :=
  ∃ frame, talk.outcome = .ok frame ∧ frame.nak = false ∧ frame.badChecksum = false

end Talk

theorem Frame.clean_iff {frame : Frame} :
    frame.clean = true ↔ frame.nak = false ∧ frame.badChecksum = false := by
  simp [clean]

/-- Only a frame that is too short cannot be read. -/
theorem Reply.insufficient_of_decode {kind : Reply} {bytes : Bytes} {s : Snapshot} {fault : Fault}
    (refused : kind.decode bytes s = .error fault) :
    ∃ expected, fault = .insufficient expected bytes.length := by
  cases kind with
  | identity | nominal | status | extended | statusCodes =>
    simp only [decode, IdentityReply.ofFrame, NominalReply.ofFrame, StatusReply.ofFrame,
      ExtendedReply.ofFrame, CodesReply.ofFrame] at refused
    split at refused
    · cases refused
    · cases refused
      exact ⟨_, rfl⟩
  | telemetry level =>
    simp only [decode, Sentry.decode] at refused
    split at refused
    · cases refused
    · cases refused
      exact ⟨_, rfl⟩

/-! ## Accounts -/

/-- Whether a notice leaves open if what was published still holds. -/
def Notice.plain : Notice → Bool
  | .stale | .ok => false
  | .info _ _ | .status _ | .command _ => true

namespace Monitor

variable {σ : Type}

/-- The monitor behind a talk. -/
def heard (m : Monitor σ) (talk : Talk σ) : Monitor σ :=
  { m with link := talk.link, talks := talk :: m.talks }

/-- Which talks there were, the latest first, and what was read of them: clean replies, in order. -/
structure Heard (m after : Monitor σ) (talks : List (Talk σ)) : Prop where
  recorded : after.talks = talks ++ m.talks
  read : ∃ readings : List Reading,
    (readings.map Reading.said).Sublist (talks.reverse.map Talk.said) ∧
      (∀ reading ∈ readings, reading.Clean) ∧
      readings.foldlM Reading.onto m.snapshot = .ok after.snapshot

/-- Which notices were posted, the latest first. None of them tells whether the data holds. -/
structure Published (m after : Monitor σ) (news : List Notice) : Prop where
  notices : after.notices = news ++ m.notices
  store : after.store = m.store.applyAll news.reverse
  plain : ∀ notice ∈ news, notice.plain = true
  failures : after.failures = m.failures

/-- An account of a stretch. Without a clean reply nothing is published or negotiated. -/
structure Account (m after : Monitor σ) (talks : List (Talk σ)) (news : List Notice) : Prop
    extends Heard m after talks, Published m after news where
  gate : (∀ talk ∈ talks, ¬talk.Clean) → news = [] ∧ after.dialect = m.dialect

section
variable {a b c : Monitor σ} {talks later : List (Talk σ)} {news newer : List Notice}

theorem Heard.trans (h : Heard a b talks) (k : Heard b c later) : Heard a c (later ++ talks) where
  recorded := by rw [k.recorded, h.recorded, List.append_assoc]
  read := by
    obtain ⟨first, said, clean, read⟩ := h.read
    obtain ⟨second, said', clean', read'⟩ := k.read
    refine ⟨first ++ second, ?_, List.forall_mem_append.mpr ⟨clean, clean'⟩, ?_⟩
    · rw [List.map_append, List.reverse_append, List.map_append]
      exact said.append said'
    · rw [List.foldlM_append, read]
      exact read'

theorem Published.trans (h : Published a b news) (k : Published b c newer) :
    Published a c (newer ++ news) where
  notices := by rw [k.notices, h.notices, List.append_assoc]
  store := by
    rw [k.store, h.store, List.reverse_append]
    exact (List.foldl_append ..).symm
  plain := List.forall_mem_append.mpr ⟨k.plain, h.plain⟩
  failures := k.failures.trans h.failures

theorem Account.trans (h : Account a b talks news) (k : Account b c later newer) :
    Account a c (later ++ talks) (newer ++ news) where
  toHeard := h.toHeard.trans k.toHeard
  toPublished := h.toPublished.trans k.toPublished
  gate unclean := by
    obtain ⟨unclean', unclean⟩ := List.forall_mem_append.mp unclean
    obtain ⟨rfl, same⟩ := h.gate unclean
    obtain ⟨rfl, same'⟩ := k.gate unclean'
    exact ⟨rfl, same'.trans same⟩

/-- Nothing but the link and the trust in it changed. -/
theorem Account.of_link (m : Monitor σ) (link : Link σ) (identified : Bool) :
    Account m { m with link, identified } [] [] where
  recorded := rfl
  read := ⟨[], List.Sublist.slnil, by simp, rfl⟩
  notices := rfl
  store := rfl
  plain := by simp
  failures := rfl
  gate _ := ⟨rfl, rfl⟩

/-- A talk that nothing is read of. -/
theorem Account.of_talk (m : Monitor σ) (talk : Talk σ) : Account m (m.heard talk) [talk] [] where
  recorded := rfl
  read := ⟨[], List.nil_sublist _, by simp, rfl⟩
  notices := rfl
  store := rfl
  plain := by simp
  failures := rfl
  gate _ := ⟨rfl, rfl⟩

/-- A talk whose reply is read. -/
theorem Account.of_reading (m : Monitor σ) {talk : Talk σ} {reading : Reading} {s : Snapshot}
    (said : reading.said = talk.said) (clean : reading.Clean)
    (read : reading.onto m.snapshot = .ok s) :
    Account m { m.heard talk with snapshot := s } [talk] [] where
  recorded := rfl
  read := ⟨[reading], by simp [said], by simpa using clean, by simp [read]⟩
  notices := rfl
  store := rfl
  plain := by simp
  failures := rfl
  gate _ := ⟨rfl, rfl⟩

/-- What a clean reply settles may change how the monitor talks. -/
theorem Account.settled (h : Account a b talks news) (clean : ∃ talk ∈ talks, talk.Clean)
    (dialect : Dialect) (identified : Bool) :
    Account a { b with dialect, identified } talks news where
  toHeard := ⟨h.recorded, h.read⟩
  toPublished := ⟨h.notices, h.store, h.plain, h.failures⟩
  gate unclean := by
    obtain ⟨talk, member, clean⟩ := clean
    exact absurd clean (unclean talk member)

/-- Behind a clean reply anything may be published. -/
theorem Account.posted (h : Account a b talks news) (clean : ∃ talk ∈ talks, talk.Clean)
    {notices : List Notice} (plain : ∀ notice ∈ notices, notice.plain = true) :
    Account a (b.post notices) talks (notices.reverse ++ news) where
  toHeard := ⟨h.recorded, h.read⟩
  toPublished := h.toPublished.trans {
    notices := rfl
    store := by rw [List.reverse_reverse]; rfl
    plain := by simpa using plain
    failures := rfl }
  gate unclean := by
    obtain ⟨talk, member, clean⟩ := clean
    exact absurd clean (unclean talk member)

end

/-- A stretch that publishes nothing, and that succeeds on a clean reply only. -/
def Learns {α : Type} (m : Monitor σ) (got : Except Fault α × Monitor σ) : Prop :=
  ∃ talks, Account m got.2 talks [] ∧ ∀ value, got.1 = .ok value → ∃ talk ∈ talks, talk.Clean

theorem Learns.after {α : Type} {a b : Monitor σ} {talks : List (Talk σ)}
    {got : Except Fault α × Monitor σ} (learns : b.Learns got) (account : Account a b talks []) :
    a.Learns got := by
  obtain ⟨later, behind, clean⟩ := learns
  refine ⟨later ++ talks, account.trans behind, fun value succeeded => ?_⟩
  obtain ⟨talk, member, clean⟩ := clean value succeeded
  exact ⟨talk, List.mem_append_left _ member, clean⟩

variable [Device σ]

/-! ## Asking -/

/-- The talk that a command leads to. -/
def talk (m : Monitor σ) (command : Command) : Talk σ :=
  ⟨command, (m.link.execute command).1, (m.link.execute command).2⟩

theorem carryOut_eq (m : Monitor σ) (command : Command) :
    m.carryOut command = ((m.talk command).outcome, m.heard (m.talk command)) :=
  rfl

/-- **What asking comes to.** -/
theorem ask_cases (m : Monitor σ) (command : Command) (kind : Reply) :
    let talk := m.talk command
    (∃ frame s, talk.outcome = .ok frame ∧ frame.nak = false ∧ frame.badChecksum = false ∧
      kind.decode frame.bytes m.snapshot = .ok s ∧
      m.ask command kind = (.ok frame, { m.heard talk with snapshot := s })) ∨
    ∃ fault, m.ask command kind = (.error fault, m.heard talk) ∧
      (talk.outcome = .error fault ∨
        ∃ frame, talk.outcome = .ok frame ∧ fault.isFatal = false) := by
  intro talk
  have same : m.carryOut command = (talk.outcome, m.heard talk) := m.carryOut_eq command
  have kept : (m.heard talk).snapshot = m.snapshot := rfl
  generalize m.heard talk = after at same kept ⊢
  generalize talk.outcome = outcome at same ⊢
  cases outcome with
  | error fault => exact .inr ⟨fault, by simp only [ask, request, same], .inl rfl⟩
  | ok frame =>
    by_cases bad : frame.badChecksum
    · refine .inr ⟨.badChecksum, ?_, .inr ⟨frame, rfl, rfl⟩⟩
      simp only [ask, request, same, dataReply, if_pos bad]
    by_cases rejected : frame.nak
    · refine .inr ⟨.nak, ?_, .inr ⟨frame, rfl, rfl⟩⟩
      simp only [ask, request, same, dataReply, if_neg bad, if_pos rejected]
    have known : kind.decode frame.bytes after.snapshot = kind.decode frame.bytes m.snapshot := by
      rw [kept]
    cases read : kind.decode frame.bytes m.snapshot with
    | error fault =>
      obtain ⟨expected, rfl⟩ := Reply.insufficient_of_decode read
      refine .inr ⟨.insufficient expected frame.bytes.length, ?_, .inr ⟨frame, rfl, rfl⟩⟩
      simp only [ask, request, same, dataReply, if_neg bad, if_neg rejected, known, read]
    | ok s =>
      refine .inl ⟨frame, s, rfl, by simpa using rejected, by simpa using bad, read, ?_⟩
      simp only [ask, request, same, dataReply, if_neg bad, if_neg rejected, known, read]

/-- What is clean and can be read is read. -/
theorem ask_of_clean {m : Monitor σ} {command : Command} {kind : Reply} {frame : Frame}
    {s : Snapshot} (answer : (m.talk command).outcome = .ok frame) (clean : frame.clean = true)
    (read : kind.decode frame.bytes m.snapshot = .ok s) :
    m.ask command kind = (.ok frame, { m.heard (m.talk command) with snapshot := s }) := by
  obtain ⟨accepted, intact⟩ := Frame.clean_iff.mp clean
  have whole : dataReply frame = .ok frame := by simp [dataReply, accepted, intact]
  have kept : (m.heard (m.talk command)).snapshot = m.snapshot := rfl
  simp only [ask, request, carryOut_eq, answer, whole, kept, read]

@[simp] theorem ask_dialect (m : Monitor σ) (command : Command) (kind : Reply) :
    (m.ask command kind).2.dialect = m.dialect := by
  obtain ⟨frame, s, -, -, -, -, ends⟩ | ⟨fault, ends, -⟩ := m.ask_cases command kind
  · rw [ends]
    rfl
  · rw [ends]
    rfl

theorem ask_learns {m : Monitor σ} {command : Command} {kind : Reply}
    {got : Except Fault Frame × Monitor σ} (answers : kind.Answers command)
    (asked : m.ask command kind = got) : m.Learns got := by
  obtain ⟨frame, s, said, accepted, intact, read, ends⟩ | ⟨fault, ends, -⟩ :=
    m.ask_cases command kind
  · rw [← asked, ends]
    have clean : Reading.Clean ⟨kind, command, frame⟩ := ⟨answers, accepted, intact⟩
    have same : Reading.said ⟨kind, command, frame⟩ = (m.talk command).said :=
      congrArg (command, ·) said.symm
    refine ⟨_, .of_reading m same clean read, fun _ _ => ?_⟩
    exact ⟨_, List.mem_singleton_self _, frame, said, accepted, intact⟩
  · rw [← asked, ends]
    exact ⟨_, .of_talk m _, nofun⟩

/-! ## Identifying and polling -/

theorem identifyGpser_learns (m : Monitor σ) : m.Learns m.identifyGpser := by
  fun_cases identifyGpser m with
  | case1 fault after refused =>
    obtain ⟨talks, account, -⟩ := ask_learns .identity refused
    exact ⟨talks, account, nofun⟩
  | case2 frame after asked dialect =>
    obtain ⟨talks, account, clean⟩ := ask_learns .identity asked
    exact ⟨talks, account.settled (clean frame rfl) dialect true, fun _ _ => clean frame rfl⟩

theorem identifySentry_learns (m : Monitor σ) : m.Learns m.identifySentry := by
  fun_cases identifySentry m with
  | case1 fault after refused =>
    obtain ⟨talks, account, -⟩ := ask_learns .basic refused
    exact ⟨talks, account, nofun⟩
  | case2 frame after asked spoken fault refused =>
    obtain ⟨talks, account, clean⟩ := ask_learns .basic asked
    exact ⟨talks, account.settled (clean frame rfl) spoken.dialect after.identified, nofun⟩
  | case3 frame after asked spoken level resolved dialect =>
    obtain ⟨talks, account, clean⟩ := ask_learns .basic asked
    exact ⟨talks, account.settled (clean frame rfl) dialect true, fun _ _ => clean frame rfl⟩

theorem identify_learns (m : Monitor σ) : m.Learns m.identify := by
  fun_cases identify m with
  | case1 => exact m.identifyGpser_learns
  | case2 => exact m.identifySentry_learns

theorem detect_learns (m : Monitor σ) : m.Learns m.detect := by
  fun_cases detect m with
  | case1 => exact m.identifyGpser_learns
  | case2 => exact m.identifySentry_learns
  | case3 chosen _ after identified | case4 chosen _ after identified =>
    have first := m.identifySentry_learns
    rwa [identified] at first
  | case5 chosen fault first soft refused _ second identified
  | case6 chosen fault first soft refused _ second identified =>
    -- The SENTRY probe came to nothing, so what matters is the GPSER probe behind it.
    obtain ⟨talks, account, -⟩ := m.identifySentry_learns
    rw [refused] at account
    have behind := first.identifyGpser_learns.after account
    rwa [identified] at behind
  | case7 chosen fault first soft refused _ second _ refused' =>
    obtain ⟨talks, account, -⟩ := m.identifySentry_learns
    rw [refused] at account
    obtain ⟨later, behind, -⟩ := first.identifyGpser_learns.after account
    rw [refused'] at behind
    exact ⟨later, behind, nofun⟩

theorem ensureIdentified_account (m : Monitor σ) :
    ∃ talks, Account m m.ensureIdentified.2 talks [] := by
  fun_cases ensureIdentified m with
  | case1 fault link refused => exact ⟨[], .of_link m link m.identified⟩
  | case2 _ link opened reopened taken news ready trusted => exact ⟨[], .of_link m _ _⟩
  | case3 _ link opened reopened taken news ready untrusted =>
    obtain ⟨talks, account, -⟩ := ready.identify_learns
    exact ⟨_, (Account.of_link m _ _).trans account⟩

theorem readExtended_account (m : Monitor σ) : ∃ talks, Account m m.readExtended.2 talks [] := by
  fun_cases readExtended m with
  | case1 _ after asked | case2 _ after asked | case3 _ after _ asked =>
    obtain ⟨talks, account, -⟩ := ask_learns (.extended _) asked
    exact ⟨talks, account⟩

theorem readStatus_learns (m : Monitor σ) : m.Learns m.readStatus := by
  fun_cases readStatus m with
  | case1 _ fault after refused =>
    obtain ⟨talks, account, -⟩ := ask_learns (.status ..) refused
    exact ⟨talks, account, nofun⟩
  | case2 _ frame after asked =>
    obtain ⟨talks, account, clean⟩ := ask_learns (.status ..) asked
    obtain ⟨later, behind⟩ := after.readExtended_account
    obtain ⟨talk, member, clean⟩ := clean frame rfl
    exact ⟨later ++ talks, account.trans behind,
      fun _ _ => ⟨talk, List.mem_append_right _ member, clean⟩⟩
  | case3 _ fault after refused =>
    obtain ⟨talks, account, -⟩ := ask_learns (.telemetry _) refused
    exact ⟨talks, account, nofun⟩
  | case4 _ frame after asked =>
    obtain ⟨talks, account, clean⟩ := ask_learns (.telemetry _) asked
    exact ⟨talks, account, fun _ _ => clean frame rfl⟩

/-- **All of a poll but its end.** Nothing is published yet. -/
theorem refresh_learns (m : Monitor σ) : m.Learns m.refresh := by
  obtain ⟨talks, account⟩ := m.ensureIdentified_account
  fun_cases refresh m with
  | case1 fault after refused =>
    rw [refused] at account
    exact ⟨talks, account, nofun⟩
  | case2 _ ready identified =>
    rw [identified] at account
    exact ready.readStatus_learns.after account

end Monitor

end UpsMonitor
