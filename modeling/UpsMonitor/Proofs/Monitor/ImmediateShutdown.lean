import UpsMonitor.Proofs.Checksum
import UpsMonitor.Proofs.Monitor.Identification
import UpsMonitor.Proofs.Monitor.Shutdown
import UpsMonitor.Proofs.Reply.Decoding

/-!
# Shutdown without a poll

What becomes of a shutdown of a unit that was identified but never polled. A SENTRY unit gives its
status with its identity, a GPSER unit does not, and a status that is not known counts as on line.
Main statements:

* `establish_seen`: how a unit is seen that answers everything it is asked as it is established;
* `immediate_shutdown`: such a SENTRY unit on battery shuts down, and such a GPSER unit never does.
-/

namespace UpsMonitor

variable {σ : Type}

/-! ## A unit that answers -/

/-- The commands that are answered with the status, by name. -/
theorem Reply.Answers.name {kind : Reply} {command : Command} (answers : kind.Answers command)
    (carries : kind.carriesStatus = true) : command.name ∈ ["RS", "identify", "request"] := by
  cases answers with
  | identity | nominal | extended | statusCodes => cases carries
  | status declared mode => exact List.mem_cons_self ..
  | basic | telemetry level => simp [SentryCommand.encode, SentryCommand.name]

namespace Talk

/-- The unit replies without a flag. What identifies it is whole, and what carries its status says
that it is on battery. -/
structure Serves (talk : Talk σ) (frame : Frame) : Prop where
  answer : talk.outcome = .ok frame
  clean : frame.clean = true
  gpser : talk.command = GpserCommand.identify.encode .sum →
    IdentityReply.needed ≤ frame.bytes.length
  sentry : talk.command = SentryCommand.identify.encode →
    Extension.only192.replyLength ≤ frame.bytes.length
  onBattery : ∀ kind s after, Reply.Answers kind talk.command → kind.carriesStatus = true →
    kind.decode frame.bytes s = .ok after → testBit after.status.bytes 1 = true

/-- How a unit on battery meets a command: in the family that it speaks it serves it, and in the
other it makes no clean reply. -/
inductive Met (speaks : Family) (talk : Talk σ) : Prop
  | served {frame : Frame} (spoken : talk.command.family = speaks) (serves : talk.Serves frame)
  | unheard (foreign : talk.command.family ≠ speaks) (unclean : ¬talk.Clean)
      (soft : ∀ detail, talk.outcome ≠ .error (.fatal detail))

variable {speaks : Family} {talk : Talk σ}

theorem Met.soft (met : talk.Met speaks) (detail : String) :
    talk.outcome ≠ .error (.fatal detail) := by
  cases met with
  | served _ serves =>
    rw [serves.answer]
    nofun
  | unheard _ _ soft => exact soft detail

theorem Met.serves (met : talk.Met speaks) (spoken : talk.command.family = speaks) :
    ∃ frame, talk.Serves frame := by
  cases met with
  | served _ serves => exact ⟨_, serves⟩
  | unheard foreign => exact absurd spoken foreign

theorem Met.accepted (met : talk.Met speaks) (spoken : talk.command.family = speaks) :
    talk.Accepted := by
  obtain ⟨frame, serves⟩ := met.serves spoken
  exact (accepted_of_ok serves.answer).mpr serves.clean

/-- Whatever is read of such a unit says that it is on battery. -/
theorem Met.onBattery {kind : Reply} {frame : Frame} {s after : Snapshot} (met : talk.Met speaks)
    (answers : kind.Answers talk.command) (carries : kind.carriesStatus = true)
    (answer : talk.outcome = .ok frame) (clean : frame.clean = true)
    (read : kind.decode frame.bytes s = .ok after) : testBit after.status.bytes 1 = true := by
  cases met with
  | served _ serves =>
    cases answer.symm.trans serves.answer
    exact serves.onBattery kind s after answers carries read
  | unheard _ unclean =>
    exact absurd ⟨frame, answer, Frame.clean_iff.mp clean⟩ unclean

/-- A GPSER unit that is not asked for its status serves with any clean reply. -/
theorem met_of_silent (spoken : talk.command.family = .gpser)
    (silent : talk.command.name ∉ ["RS", "identify", "request"])
    (answered : talk.outcome.toOption.any (fun frame => frame.clean &&
      (talk.command.name != "GI" || 68 ≤ frame.bytes.length)) = true) : talk.Met .gpser := by
  cases answer : talk.outcome with
  | error fault => simp [answer, Except.toOption] at answered
  | ok frame =>
    simp only [answer, Except.toOption, Option.any_some, Bool.and_eq_true] at answered
    obtain ⟨clean, whole⟩ := answered
    refine .served spoken ⟨answer, clean, fun asked => ?_, fun asked => ?_, ?_⟩
    · simpa [asked, GpserCommand.encode, GpserCommand.name, IdentityReply.needed] using whole
    · simp [asked, SentryCommand.encode, SentryCommand.name] at silent
    · exact fun kind _ _ answers carries _ => absurd (answers.name carries) silent

end Talk

namespace Monitor

/-- How a unit is seen that was identified but not polled: whether it is on battery is known of a
SENTRY unit only. -/
structure Seen (speaks : Family) (settings : Settings) (m : Monitor σ) : Prop where
  settings : m.settings = settings
  family : m.dialect.family = speaks
  onBattery : speaks = .sentry → testBit m.snapshot.status.bytes 1 = true
  unread : speaks = .gpser → m.snapshot.status = {}

/-- A unit may be looked for in the family that it speaks, and nothing is known of its status. -/
structure Fresh (speaks : Family) (m : Monitor σ) : Prop where
  configured : m.settings.family = .auto ∨ m.settings.family.initial = speaks
  unread : m.snapshot.status = {}

variable [Device σ] {speaks : Family} {settings : Settings} {m after : Monitor σ}

/-! ## Asking -/

section
variable {command : Command} {kind : Reply} {outcome : Except Fault Frame}

/-- Asking such a unit never ends in a fatal fault. -/
theorem ask_soft (met : (m.talk command).Met speaks) (asked : m.ask command kind = (outcome, after))
    (detail : String) : outcome ≠ .error (.fatal detail) := by
  obtain ⟨frame, s, -, -, -, -, ends⟩ | ⟨fault, ends, reason⟩ := m.ask_cases command kind
  · cases asked.symm.trans ends
    nofun
  · cases asked.symm.trans ends
    rintro ⟨⟩
    rcases reason with failed | ⟨frame, -, soft⟩
    · exact met.soft detail failed
    · cases soft

/-- A GPSER unit that is not asked for its status, and a SENTRY unit on battery, are seen as
before. -/
theorem Seen.ask (seen : m.Seen speaks settings) (met : (m.talk command).Met speaks)
    (answers : kind.Answers command) (fits : speaks = .gpser → kind.carriesStatus = false)
    (asked : m.ask command kind = (outcome, after)) : after.Seen speaks settings := by
  obtain ⟨frame, s, answer, accepted, intact, read, ends⟩ | ⟨fault, ends, -⟩ :=
    m.ask_cases command kind
  · cases asked.symm.trans ends
    have clean := Frame.clean_iff.mpr ⟨accepted, intact⟩
    refine ⟨seen.settings, seen.family, fun sentry => ?_, fun gpser => ?_⟩
    · by_cases carries : kind.carriesStatus
      · exact met.onBattery answers carries answer clean read
      · have same := Reply.status_of_decode (by simpa using carries) read
        simpa [same] using seen.onBattery sentry
    · exact (Reply.status_of_decode (fits gpser) read).trans (seen.unread gpser)
  · cases asked.symm.trans ends
    exact ⟨seen.settings, seen.family, seen.onBattery, seen.unread⟩

theorem Seen.asked (seen : m.Seen speaks settings) (answers : kind.Answers command)
    (fits : speaks = .gpser → kind.carriesStatus = false)
    (asked : m.ask command kind = (outcome, after)) (met : ∀ talk ∈ after.talks, talk.Met speaks) :
    (∀ detail, outcome ≠ .error (.fatal detail)) ∧ after.Seen speaks settings := by
  have last : (m.talk command).Met speaks :=
    met _ (by rw [ask_talks asked]; exact List.mem_cons_self ..)
  exact ⟨ask_soft last asked, seen.ask last answers fits asked⟩

end

/-! ## Establishing -/

theorem identifyGpser_seen (unread : m.snapshot.status = {})
    (met : (m.talk (GpserCommand.identify.encode .sum)).Met .gpser) :
    m.identifyGpser.1 = .ok () ∧ m.identifyGpser.2.Seen .gpser m.settings := by
  obtain ⟨frame, serves⟩ := met.serves rfl
  obtain ⟨s, read⟩ : ∃ s, Reply.identity.decode frame.bytes m.snapshot = .ok s := by
    simp only [Reply.decode, IdentityReply.ofFrame, dif_pos (serves.gpser rfl)]
    exact ⟨_, rfl⟩
  have asked := ask_of_clean serves.answer serves.clean read
  simp only [identifyGpser, asked]
  refine ⟨trivial, rfl, rfl, fun sentry => ?_, fun _ => ?_⟩
  · cases sentry
  · exact (Reply.status_of_decode rfl read).trans unread

theorem identifySentry_seen (met : (m.talk SentryCommand.identify.encode).Met .sentry) :
    m.identifySentry.1 = .ok () ∧ m.identifySentry.2.Seen .sentry m.settings := by
  obtain ⟨frame, serves⟩ := met.serves rfl
  have long : 103 ≤ frame.bytes.length := serves.sentry rfl
  obtain ⟨s, read⟩ :
      ∃ s, (Reply.telemetry .only192).decode frame.bytes m.snapshot = .ok s := by
    simp only [Reply.decode, Sentry.decode, dif_pos (serves.sentry rfl)]
    exact ⟨_, rfl⟩
  have asked := ask_of_clean serves.answer serves.clean read
  simp only [identifySentry, asked, Sentry.resolve, dif_pos long]
  refine ⟨trivial, rfl, rfl, fun _ => ?_, fun gpser => ?_⟩
  · exact met.onBattery .basic rfl serves.answer serves.clean read
  · cases gpser

/-- A GPSER unit is not taken for a SENTRY unit. -/
theorem identifySentry_unheard (met : (m.talk SentryCommand.identify.encode).Met .gpser) :
    ∃ fault, fault.isFatal = false ∧
      m.identifySentry = (.error fault, m.heard (m.talk SentryCommand.identify.encode)) := by
  obtain ⟨frame, s, answer, accepted, intact, -, -⟩ | ⟨fault, ends, reason⟩ :=
    m.ask_cases SentryCommand.identify.encode (.telemetry .only192)
  · cases met with
    | served spoken => cases spoken
    | unheard _ unclean => exact absurd ⟨frame, answer, accepted, intact⟩ unclean
  · refine ⟨fault, ?_, by simp only [identifySentry, ends]⟩
    rcases reason with failed | ⟨frame, -, soft⟩
    · exact Fault.isFatal_eq_false fun detail same => met.soft detail (same ▸ failed)
    · exact soft

/-- The search for the family begins with SENTRY. -/
theorem detect_probes_sentry (auto : m.settings.family = .auto) :
    m.talk SentryCommand.identify.encode ∈ m.detect.2.talks := by
  have first := m.identifySentry_talks
  fun_cases detect m with
  | case1 chosen | case2 chosen => cases auto.symm.trans chosen
  | case3 _ _ after found | case4 _ _ after found =>
    replace first : after.talks = _ := found ▸ first
    simp [first]
  | case5 _ fault before soft refused _ after found
  | case6 _ fault before soft refused _ after found
  | case7 _ fault before soft refused _ after _ found =>
    replace first : before.talks = _ := refused ▸ first
    have second : after.talks = _ := found ▸ before.identifyGpser_talks
    simp [second, first]

theorem detect_of_found (auto : m.settings.family = .auto) (found : m.identifySentry.1 = .ok ()) :
    m.detect = m.identifySentry := by
  obtain ⟨after, named⟩ : ∃ after, m.identifySentry = (.ok (), after) := ⟨_, Prod.ext found rfl⟩
  simp only [detect, auto, named]

/-- The search goes on with GPSER. -/
theorem detect_of_refused {before : Monitor σ} {fault : Fault} (auto : m.settings.family = .auto)
    (soft : fault.isFatal = false) (refused : m.identifySentry = (.error fault, before)) :
    m.detect.2 = before.identifyGpser.2 ∧
      (before.identifyGpser.1 = .ok () → m.detect.1 = .ok ()) := by
  fun_cases detect m with
  | case1 chosen | case2 chosen => cases auto.symm.trans chosen
  | case3 _ _ after found => cases refused.symm.trans found
  | case4 _ detail after found =>
    cases refused.symm.trans found
    cases soft
  | case5 _ other before' _ refused' _ after found =>
    cases refused.symm.trans refused'
    rw [found]
    exact ⟨rfl, fun _ => rfl⟩
  | case6 _ other before' _ refused' _ after found
  | case7 _ other before' _ refused' _ after _ found =>
    cases refused.symm.trans refused'
    rw [found]
    refine ⟨rfl, fun settled => ?_⟩
    cases settled

/-- A unit is found if its family is the one that is configured, or if any is looked for. -/
theorem detect_seen (fresh : m.Fresh speaks) (met : ∀ talk ∈ m.detect.2.talks, talk.Met speaks) :
    m.detect.1 = .ok () ∧ m.detect.2.Seen speaks m.settings := by
  have configured := fresh.configured
  cases chosen : m.settings.family with
  | gpser =>
    obtain rfl : Family.gpser = speaks := by simpa [chosen, FamilyChoice.initial] using configured
    have same : m.detect = m.identifyGpser := by simp only [detect, chosen]
    rw [same] at met ⊢
    exact identifyGpser_seen fresh.unread (met _ (by simp [identifyGpser_talks]))
  | sentry =>
    obtain rfl : Family.sentry = speaks := by simpa [chosen, FamilyChoice.initial] using configured
    have same : m.detect = m.identifySentry := by simp only [detect, chosen]
    rw [same] at met ⊢
    exact identifySentry_seen (met _ (by rw [identifySentry_talks]; exact List.mem_cons_self ..))
  | auto =>
    have probed := met _ (detect_probes_sentry chosen)
    cases speaks with
    | sentry =>
      obtain ⟨found, seen⟩ := identifySentry_seen probed
      rw [detect_of_found chosen found]
      exact ⟨found, seen⟩
    | gpser =>
      obtain ⟨fault, soft, refused⟩ := identifySentry_unheard probed
      obtain ⟨same, found⟩ := detect_of_refused chosen soft refused
      rw [same] at met ⊢
      have last := met _ (by rw [identifyGpser_talks]; exact List.mem_cons_self ..)
      have unread : (m.heard (m.talk SentryCommand.identify.encode)).snapshot.status = {} :=
        fresh.unread
      obtain ⟨identified, seen⟩ := identifyGpser_seen unread last
      exact ⟨found identified, seen⟩

omit [Device σ] in
theorem Seen.posted (seen : m.Seen speaks settings) (notices : List Notice) :
    (m.post notices).Seen speaks settings :=
  ⟨seen.settings, seen.family, seen.onBattery, seen.unread⟩

/-- The ratings come with the status only from a SENTRY unit. -/
theorem readNominal_asks (m : Monitor σ) :
    ∃ command kind, m.readNominal = m.ask command kind ∧ Reply.Answers kind command ∧
      (m.dialect.family = .gpser → kind.carriesStatus = false) := by
  fun_cases readNominal m with
  | case1 => exact ⟨_, _, rfl, .nominal _, fun _ => rfl⟩
  | case2 sentry =>
    refine ⟨_, _, rfl, .telemetry _, fun gpser => ?_⟩
    cases sentry.symm.trans gpser

theorem readNominal_seen (seen : m.Seen speaks settings) {outcome : Except Fault Frame}
    (read : m.readNominal = (outcome, after)) (met : ∀ talk ∈ after.talks, talk.Met speaks) :
    (∀ detail, outcome ≠ .error (.fatal detail)) ∧ after.Seen speaks settings := by
  obtain ⟨command, kind, asks, answers, fits⟩ := m.readNominal_asks
  exact seen.asked answers (fun gpser => fits (seen.family.trans gpser)) (asks.symm.trans read) met

theorem publishNominal_seen (seen : m.Seen speaks settings)
    (met : ∀ talk ∈ m.publishNominal.2.talks, talk.Met speaks) :
    m.publishNominal.1 = .ok () ∧ m.publishNominal.2.Seen speaks settings := by
  revert met
  fun_cases publishNominal m with
  | case1 frame after read =>
    intro met
    obtain ⟨-, same⟩ := readNominal_seen seen read met
    exact ⟨rfl, same.posted _⟩
  | case2 detail after read =>
    intro met
    exact absurd rfl ((readNominal_seen seen read met).1 detail)
  | case3 fault after soft read =>
    intro met
    exact ⟨rfl, (readNominal_seen seen read met).2⟩

theorem readStatusCodes_seen (seen : m.Seen speaks settings)
    (met : ∀ talk ∈ m.readStatusCodes.2.talks, talk.Met speaks) :
    (∀ detail, m.readStatusCodes.1 ≠ .error (.fatal detail)) ∧
      m.readStatusCodes.2.Seen speaks settings := by
  revert met
  fun_cases readStatusCodes m with
  | case1 =>
    refine fun _ => ⟨fun detail fatal => ?_, seen⟩
    cases fatal
  | case2 _ _ after asked | case3 _ after asked =>
    intro met
    refine ⟨fun detail fatal => ?_, (seen.asked (.statusCodes _) (fun _ => rfl) asked met).2⟩
    cases fatal
  | case4 _ fault after _ asked =>
    intro met
    obtain ⟨soft, same⟩ := seen.asked (.statusCodes _) (fun _ => rfl) asked met
    exact ⟨fun detail fatal => soft detail (congrArg _ (Except.error.inj fatal)), same⟩

theorem tryStatusCodes_seen (seen : m.Seen speaks settings)
    (met : ∀ talk ∈ m.tryStatusCodes.2.talks, talk.Met speaks) :
    m.tryStatusCodes.1 = .ok () ∧ m.tryStatusCodes.2.Seen speaks settings := by
  have read := readStatusCodes_seen seen
  revert met
  fun_cases tryStatusCodes m with
  | case1 detail after broke =>
    intro met
    rw [broke] at read
    exact absurd rfl ((read met).1 detail)
  | case2 outcome after _ tried =>
    intro met
    rw [tried] at read
    exact ⟨rfl, (read met).2⟩

theorem openFirst_kept (m : Monitor σ) :
    m.openFirst.2.settings = m.settings ∧ m.openFirst.2.snapshot = m.snapshot := by
  fun_cases openFirst m with
  | case1 | case2 => exact ⟨rfl, rfl⟩

section
variable {ready known rated : Monitor σ} {outcome : Except Fault Unit}

omit [Device σ] in
/-- What holds of all talks holds of those before a stretch. -/
theorem Heard.earlier {talks : List (Talk σ)} (heard : Heard m after talks)
    (met : ∀ talk ∈ after.talks, talk.Met speaks) : ∀ talk ∈ m.talks, talk.Met speaks :=
  fun talk member => met talk (heard.recorded ▸ List.mem_append_right talks member)

theorem found_seen (fresh : m.Fresh speaks) (opened : m.openFirst = (.ok (), ready))
    (found : ready.detect = (outcome, known)) (met : ∀ talk ∈ known.talks, talk.Met speaks) :
    outcome = .ok () ∧ known.Seen speaks m.settings := by
  obtain ⟨same, snapshot⟩ := m.openFirst_kept
  rw [opened] at same snapshot
  have fresh' : ready.Fresh speaks :=
    ⟨by rw [same]; exact fresh.configured, by rw [snapshot]; exact fresh.unread⟩
  have seen := detect_seen fresh'
  rw [found, same] at seen
  exact seen met

theorem rated_seen {notices : List Notice} (fresh : m.Fresh speaks)
    (opened : m.openFirst = (.ok (), ready)) (found : ready.detect = (.ok (), known))
    (read : (known.post notices).publishNominal = (outcome, rated))
    (met : ∀ talk ∈ rated.talks, talk.Met speaks) :
    outcome = .ok () ∧ rated.Seen speaks m.settings := by
  obtain ⟨_, _, behind⟩ := (known.post notices).publishNominal_account
  rw [read] at behind
  obtain ⟨-, seen⟩ := found_seen fresh opened found (behind.earlier met)
  have rates := publishNominal_seen (seen.posted notices)
  rw [read] at rates
  exact rates met

theorem tried_seen {notices : List Notice} (fresh : m.Fresh speaks)
    (opened : m.openFirst = (.ok (), ready)) (found : ready.detect = (.ok (), known))
    (read : (known.post notices).publishNominal = (.ok (), rated))
    (tried : rated.tryStatusCodes = (outcome, after))
    (met : ∀ talk ∈ after.talks, talk.Met speaks) :
    outcome = .ok () ∧ after.Seen speaks m.settings := by
  obtain ⟨_, behind⟩ := rated.tryStatusCodes_account
  rw [tried] at behind
  obtain ⟨-, seen⟩ := rated_seen fresh opened found read (behind.earlier met)
  have tries := tryStatusCodes_seen seen
  rw [tried] at tries
  exact tries met

end

/-- **Establishing a unit that answers.** -/
theorem establish_seen (fresh : m.Fresh speaks) (opened : m.openFirst.1 = .ok ())
    (met : ∀ talk ∈ m.establish.2.talks, talk.Met speaks) :
    m.establish.1 = .ok () ∧ m.establish.2.Seen speaks m.settings := by
  revert met
  fun_cases establish m with
  | case1 fault ready refused => cases opened.symm.trans (congrArg Prod.fst refused)
  | case2 _ ready opened fault after refused =>
    intro met
    obtain ⟨found, -⟩ := found_seen fresh opened refused met
    cases found
  | case3 _ ready opened _ known found named fault after refused =>
    intro met
    obtain ⟨read, -⟩ := rated_seen fresh opened found refused met
    cases read
  | case4 _ ready opened _ known found named _ rated read fault after refused =>
    intro met
    obtain ⟨tried, -⟩ := tried_seen fresh opened found read refused met
    cases tried
  | case5 _ ready opened _ known found named _ rated read _ after tried =>
    intro met
    obtain ⟨-, seen⟩ := tried_seen fresh opened found read tried met
    exact ⟨rfl, seen.posted _⟩

/-! ## Shutting down -/

omit [Device σ] in
theorem cancelFrame_family (m : Monitor σ) : m.cancelFrame.family = m.dialect.family := by
  unfold cancelFrame
  split
  · next gpser => rw [gpser]; rfl
  · next sentry => rw [sentry]; rfl

omit [Device σ] in
theorem shutdownFrame_family (m : Monitor σ) : m.shutdownFrame.family = m.dialect.family := by
  unfold shutdownFrame
  split
  · next gpser => rw [gpser]; rfl
  · next sentry => rw [sentry]; rfl

section
omit [Device σ]
variable {attempt : Attempt σ}

/-- A unit that answers takes the command that cancels. -/
theorem Seen.cancels (seen : m.Seen speaks settings) (of : attempt.Of m)
    (met : ∀ talk ∈ attempt.talks, talk.Met speaks) : attempt.cancel.Accepted := by
  have first := met attempt.cancel (List.mem_cons_self ..)
  exact first.accepted (by rw [of.cancels, cancelFrame_family, seen.family])

/-- If it was seen on battery, it takes the shutdown too. -/
theorem Seen.through (seen : m.Seen speaks settings) (of : attempt.Of m)
    (battery : testBit m.snapshot.status.bytes 1 = true)
    (met : ∀ talk ∈ attempt.talks, talk.Met speaks) : attempt.Through := by
  have cancelled := seen.cancels of met
  obtain ⟨second, sent⟩ := Option.isSome_iff_exists.mp (of.goes_on.mpr ⟨cancelled, battery⟩)
  have last := met second (by simp [Attempt.talks, sent])
  refine ⟨cancelled, second, sent, last.accepted ?_⟩
  rw [of.shuts second sent, shutdownFrame_family, seen.family]

/-- An attempt on a unit that was seen on line comes to nothing. -/
theorem fails_on_line (of : attempt.Of m) (line : testBit m.snapshot.status.bytes 1 = false)
    (met : ∀ talk ∈ attempt.talks, talk.Met speaks) : attempt.Fails := by
  have unsent := of.on_line line
  constructor
  · rintro ⟨-, second, sent, -⟩
    cases unsent.symm.trans sent
  · rintro detail ⟨talk, member, fatal⟩
    exact (met talk member).soft detail fatal

end

theorem shutdown_on_battery (seen : m.Seen speaks settings) (tries : 0 < settings.shutdownRetries)
    (battery : testBit m.snapshot.status.bytes 1 = true)
    (met : ∀ talk ∈ m.shutdown.2.talks, talk.Met speaks) :
    m.shutdown.1 = .ok () ∧ ∃ cancel second : Talk σ,
      m.shutdown.2.talks = second :: cancel :: m.talks ∧ cancel.command = m.cancelFrame ∧
      second.command = m.shutdownFrame := by
  obtain ⟨attempts, link, outcome, ended, -, of, ends⟩ :=
    shutdownWithin_attempts m.settings.shutdownRetries m
  rw [shutdown, ended] at met ⊢
  obtain ⟨attempt, rest, rfl⟩ :=
    List.exists_cons_of_ne_nil (ends.ne_nil (by rw [seen.settings]; exact tries))
  have first := of attempt (List.mem_cons_self ..)
  have through : attempt.Through := seen.through first battery fun talk member =>
    met talk (by simp [behind, member])
  obtain ⟨rfl, rfl⟩ := ends.ends_through through
  obtain ⟨-, second, sent, -⟩ := through
  refine ⟨rfl, attempt.cancel, second, ?_, first.cancels, first.shuts second sent⟩
  simp [behind, Attempt.talks, sent]

theorem shutdown_on_line (line : testBit m.snapshot.status.bytes 1 = false)
    (met : ∀ talk ∈ m.shutdown.2.talks, talk.Met speaks) :
    m.shutdown.1 = .error (.protocol "shutdown failed") ∧ ∃ cancels : List (Talk σ),
      m.shutdown.2.talks = cancels ++ m.talks ∧ cancels.length = m.settings.shutdownRetries ∧
      ∀ talk ∈ cancels, talk.command = m.cancelFrame := by
  obtain ⟨attempts, link, outcome, ended, -, of, ends⟩ :=
    shutdownWithin_attempts m.settings.shutdownRetries m
  rw [shutdown, ended] at met ⊢
  have fail : ∀ attempt ∈ attempts, attempt.Fails := fun attempt member =>
    fails_on_line (of attempt member) line fun talk inside =>
      met talk (List.mem_append_left _ (List.mem_reverse.mpr (List.mem_flatMap.mpr
        ⟨attempt, member, inside⟩)))
  obtain ⟨rfl, count⟩ := ends.given_up fail
  have only : attempts.flatMap Attempt.talks = attempts.map Attempt.cancel := by
    rw [List.map_eq_flatMap]
    refine List.flatMap_congr fun attempt member => ?_
    simp [Attempt.talks, (of attempt member).on_line line]
  refine ⟨rfl, (attempts.map Attempt.cancel).reverse, by rw [← only]; rfl, by simp [count], ?_⟩
  simpa using fun attempt member => (of attempt member).cancels

/-- **Shutting down a unit that answers and was never polled.** A SENTRY unit is shut down at once.
A GPSER unit is only told to cancel, in every attempt, and the shutdown fails. The unit need not
meet any command but those that are sent to it. -/
theorem immediate_shutdown {link : Link σ} {settings : Settings} {speaks : Family}
    (tries : 0 < settings.shutdownRetries)
    (configured : settings.family = .auto ∨ settings.family.initial = speaks)
    (opened : (ofLink link settings).openFirst.1 = .ok ())
    (met : ∀ talk ∈ (ofLink link settings).establish.2.shutdown.2.talks, talk.Met speaks) :
    let ready := (ofLink link settings).establish
    let ended := ready.2.shutdown
    ready.1 = .ok () ∧ ready.2.dialect.family = speaks ∧
    (speaks = .sentry → ended.1 = .ok () ∧
      ∃ cancel second : Talk σ, ended.2.talks = second :: cancel :: ready.2.talks ∧
        cancel.command = SentryCommand.cancel.encode ∧
        second.command = (SentryCommand.shutdown settings.delays.shutdown).encode) ∧
    (speaks = .gpser → ended.1 = .error (.protocol "shutdown failed") ∧
      ∃ cancels : List (Talk σ), ended.2.talks = cancels ++ ready.2.talks ∧
        cancels.length = settings.shutdownRetries ∧
        ∀ talk ∈ cancels,
          talk.command = GpserCommand.cancelShutdown.encode ready.2.dialect.mode) := by
  intro ready ended
  have said := (shutdownWithin_commanded ready.2.settings.shutdownRetries ready.2).account
  obtain ⟨_, account⟩ := said
  obtain ⟨established, seen⟩ : ready.1 = .ok () ∧ ready.2.Seen speaks settings :=
    establish_seen ⟨configured, rfl⟩ opened (account.earlier met)
  refine ⟨established, seen.family, ?_, ?_⟩
  · rintro rfl
    obtain ⟨succeeded, cancel, second, talks, cancels, shuts⟩ :=
      shutdown_on_battery seen tries (seen.onBattery rfl) met
    refine ⟨succeeded, cancel, second, talks, ?_, ?_⟩
    · simpa only [cancelFrame, seen.family] using cancels
    · simpa only [shutdownFrame, seen.family, seen.settings] using shuts
  · rintro rfl
    have line : testBit ready.2.snapshot.status.bytes 1 = false := by
      rw [seen.unread rfl]
      rfl
    obtain ⟨failed, cancels, talks, count, commands⟩ := shutdown_on_line line met
    refine ⟨failed, cancels, talks, count.trans (congrArg _ seen.settings), ?_⟩
    intro talk member
    simpa only [cancelFrame, seen.family] using commands talk member

/-- A clean GPSER reply with nothing but zeros behind the opcode. -/
def zeros (opcode : Bytes) (count : Nat) : Bytes :=
  Checksum.sealed .sum (Wire.replyHeader ++ opcode ++ List.replicate count 0x30)

/-- A unit that gives its identity, its ratings and its status codes, and takes two commands. -/
def obligingBench : Bench :=
  [blankIdentity, zeros [0x47, 0x4E] 24, zeros [0x52, 0x43] 46, zeros [0x4F, 0x4B] 2,
    zeros [0x4F, 0x4B] 2].foldl Bench.queueReply {}

/-- It is never asked whether it is on battery, and so it is not shut down. -/
theorem unpolled_unit_stays_up :
    let link : Link Bench :=
      { bus := { device := obligingBench }, matcher := ⟨0x04B4, 0x5500, none, none⟩ }
    let settings : Settings := { shutdownRetries := 1 }
    let first := ofLink link settings
    0 < settings.shutdownRetries ∧ settings.family.initial = .gpser ∧
    first.openFirst.1 = .ok () ∧
    (∀ talk ∈ first.establish.2.shutdown.2.talks, talk.Met .gpser) ∧
    first.establish.2.shutdown.1 = .error (.protocol "shutdown failed") := by
  intro link settings first
  have opened : first.openFirst.1 = .ok () := by decide +kernel
  have served : ∀ talk ∈ first.establish.2.shutdown.2.talks,
      talk.command.family = .gpser ∧ talk.command.name ∉ ["RS", "identify", "request"] ∧
      talk.outcome.toOption.any (fun frame => frame.clean &&
        (talk.command.name != "GI" || 68 ≤ frame.bytes.length)) = true := by
    decide +kernel
  have met : ∀ talk ∈ first.establish.2.shutdown.2.talks, talk.Met .gpser := by
    intro talk member
    obtain ⟨spoken, silent, answered⟩ := served talk member
    exact Talk.met_of_silent spoken silent answered
  obtain ⟨-, -, -, failed⟩ := immediate_shutdown (by decide) (.inr rfl) opened met
  exact ⟨by decide, rfl, opened, met, (failed rfl).1⟩

/-- A SENTRY unit on battery that answers everything with its telemetry is shut down. -/
example :
    let body := (List.replicate 99 0).set 29 0x08
    let telemetry := Checksum.append .sentry .sum (Extension.only192.opcode :: 103 :: body)
    let bench := (List.replicate 4 telemetry).foldl Bench.queueReply {}
    let link : Link Bench := { bus := { device := bench }, matcher := ⟨0x04B4, 0x5500, none, none⟩ }
    let ended := (ofLink link { family := .auto }).establish.2.shutdown
    (ended.1, ended.2.talks.map (·.command.name)) =
      (.ok (), ["shutdown", "cancel", "request", "identify"]) := by
  decide +kernel

end Monitor

end UpsMonitor
