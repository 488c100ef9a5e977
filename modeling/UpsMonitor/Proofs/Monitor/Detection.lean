import UpsMonitor.Proofs.Monitor.Control
import UpsMonitor.Proofs.Reply.Decoding
import UpsMonitor.Proofs.Usb.Answers

/-!
# Detection

Which family a unit is found to speak, and what an attempt that failed leaves behind. Main
statements:

* `identifyGpser_recognition`, `identifySentry_recognition`: a unit is taken over on a clean reply
  that is long enough, and on anything else nothing that is known of it changes;
* `detect_search`: how the families are tried one after the other;
* `establish_all_or_nothing`: unless it was broken off, establishing succeeds or changes nothing.
-/

namespace UpsMonitor

variable {σ : Type}

/-- The talk brought a frame without a flag and of at least so many bytes. -/
def Talk.Brings (talk : Talk σ) (needed : Nat) : Prop :=
  ∃ frame, talk.outcome = .ok frame ∧ frame.nak = false ∧ frame.badChecksum = false ∧
    needed ≤ frame.bytes.length

/-- Success, or a failure that nothing may be tried after. -/
def Final (outcome : Except Fault Unit) : Prop :=
  ∀ fault, outcome = .error fault → fault.isFatal = true

theorem final_ok (done : Unit) : Final (.ok done) := by
  intro fault failed
  cases failed

theorem final_fatal (detail : String) : Final (.error (.fatal detail)) := by
  intro fault failed
  cases failed
  rfl

/-- A dialect that follows from an identity block. Of a SENTRY unit the block tells less: its mode
is fixed, and its input never has a single phase. -/
structure Dialect.Fits (dialect : Dialect) (block : Vector UInt8 12) : Prop where
  gpser : dialect.family = .gpser →
    dialect.mode = .ofIdentity (block.get 4) ∧ dialect.layout = .ofIdentity (block.get 0)
  sentry : dialect.family = .sentry → dialect.mode = .sum ∧ dialect.layout.inputSingle = false

theorem Sentry.inputSingle_of_decode {level : Extension} {frame : Bytes} {s after : Snapshot}
    (read : Sentry.decode level frame s = .ok after) :
    (PhaseLayout.ofIdentity after.phasesByte).inputSingle = false := by
  unfold Sentry.decode at read
  split at read
  · next long =>
    cases read
    have three : 103 ≤ frame.length := Nat.le_trans level.le_replyLength long
    by_cases phases : isThreePhase (wordAt frame 2 (by omega))
    · simp [PhaseLayout.ofIdentity, Snapshot.phasesByte, apply, identityBlock, phases]
    · simp [PhaseLayout.ofIdentity, Snapshot.phasesByte, apply, identityBlock, phases]
  · cases read

namespace Monitor

/-- What comes of asking a unit who it is, told by the talk in which it was asked. -/
inductive Recognition (m : Monitor σ) (talk : Talk σ) (needed : Nat) (family : Family) :
    Except Fault Unit × Monitor σ → Prop
  | found {snapshot : Snapshot} {dialect : Dialect} (brings : talk.Brings needed)
      (spoken : dialect.family = family) (fits : dialect.Fits snapshot.identity) :
      Recognition m talk needed family
        (.ok (), { m.heard talk with snapshot, dialect, identified := true })
  | refused {fault : Fault} (unheard : ¬talk.Brings needed)
      (fatal : fault.isFatal = true → talk.outcome = .error fault) :
      Recognition m talk needed family (.error fault, m.heard talk)

variable [Device σ]

/-! ## Identifying -/

/-- Asking, told by the length of the reply: it is read if it is clean and long enough. -/
theorem ask_brings (m : Monitor σ) (command : Command) (kind : Reply) :
    let talk := m.talk command
    (talk.Brings kind.needed ∧ ∃ frame snapshot, talk.outcome = .ok frame ∧
      kind.decode frame.bytes m.snapshot = .ok snapshot ∧
      m.ask command kind = (.ok frame, { m.heard talk with snapshot })) ∨
    ¬talk.Brings kind.needed ∧ ∃ fault, m.ask command kind = (.error fault, m.heard talk) ∧
      (fault.isFatal = true → talk.outcome = .error fault) := by
  intro talk
  obtain ⟨frame, s, answer, accepted, intact, read, ends⟩ | ⟨fault, ends, reason⟩ :=
    m.ask_cases command kind
  · left
    have long := (kind.decode_iff_needed frame.bytes m.snapshot).mp ⟨s, read⟩
    exact ⟨⟨frame, answer, accepted, intact, long⟩, frame, s, answer, read, ends⟩
  · right
    constructor
    · rintro ⟨frame, answer, accepted, intact, long⟩
      obtain ⟨s, read⟩ := (kind.decode_iff_needed frame.bytes m.snapshot).mpr long
      have asked := ask_of_clean answer (Frame.clean_iff.mpr ⟨accepted, intact⟩) read
      cases ends.symm.trans asked
    · refine ⟨fault, ends, fun fatal => ?_⟩
      rcases reason with failed | ⟨frame, -, soft⟩
      · exact failed
      · cases fatal.symm.trans soft

theorem identifyGpser_recognition (m : Monitor σ) :
    Recognition m (m.talk (GpserCommand.identify.encode .sum)) 68 .gpser m.identifyGpser := by
  obtain ⟨brings, frame, s, -, -, ends⟩ | ⟨unheard, fault, ends, fatal⟩ :=
    m.ask_brings (GpserCommand.identify.encode .sum) .identity
  · simp only [identifyGpser, ends]
    exact .found brings rfl ⟨fun _ => ⟨rfl, rfl⟩, nofun⟩
  · simp only [identifyGpser, ends]
    exact .refused unheard fatal

/-- Between the reply and the layout that it calls for there is no way to fail: no SENTRY frame is
too short to tell its layout. -/
theorem identifySentry_recognition (m : Monitor σ) :
    Recognition m (m.talk SentryCommand.identify.encode) 103 .sentry m.identifySentry := by
  obtain ⟨brings, frame, s, answer, read, ends⟩ | ⟨unheard, fault, ends, fatal⟩ :=
    m.ask_brings SentryCommand.identify.encode (.telemetry .only192)
  · have long : 103 ≤ frame.bytes.length := (Link.execute_frame answer).whole rfl
    simp only [identifySentry, ends, Sentry.resolve, dif_pos long]
    exact .found brings rfl ⟨nofun, fun _ => ⟨rfl, Sentry.inputSingle_of_decode read⟩⟩
  · simp only [identifySentry, ends]
    exact .refused unheard fatal

/-- Any clean frame of a SENTRY unit will do. -/
theorem brings_iff_clean {m : Monitor σ} {command : Command} (sentry : command.family = .sentry) :
    (m.talk command).Brings 103 ↔ (m.talk command).Clean := by
  constructor
  · rintro ⟨frame, answer, accepted, intact, -⟩
    exact ⟨frame, answer, accepted, intact⟩
  · rintro ⟨frame, answer, accepted, intact⟩
    exact ⟨frame, answer, accepted, intact, (Link.execute_frame answer).whole sentry⟩

/-! ## Trying both families -/

/-- The talk in which a unit is asked if it speaks SENTRY. -/
def sentryProbe (m : Monitor σ) : Talk σ := m.talk SentryCommand.identify.encode

/-- The talk in which a unit is asked if it speaks GPSER, after it was asked for SENTRY. -/
def gpserProbe (m : Monitor σ) : Talk σ :=
  (m.heard m.sentryProbe).talk (GpserCommand.identify.encode .sum)

/-- How both families are tried. The search ends early with a unit that is found or with a fatal
fault. -/
inductive Search (m : Monitor σ) : Except Fault Unit × Monitor σ → Prop
  | sentry {got : Except Fault Unit × Monitor σ}
      (tried : Recognition m m.sentryProbe 103 .sentry got)
      (final : Final got.1) : Search m got
  | gpser {got : Except Fault Unit × Monitor σ} (unheard : ¬m.sentryProbe.Brings 103)
      (tried : Recognition (m.heard m.sentryProbe) m.gpserProbe 68 .gpser got)
      (final : Final got.1) : Search m got
  | neither :
      Search m (.error (.deviceNotFound "no GPSER or SENTRY reply"),
        (m.heard m.sentryProbe).heard m.gpserProbe)

theorem detect_search {m : Monitor σ} (auto : m.settings.family = .auto) : Search m m.detect := by
  have first : Recognition m m.sentryProbe 103 .sentry m.identifySentry :=
    m.identifySentry_recognition
  have second := (m.heard m.sentryProbe).identifyGpser_recognition
  fun_cases detect m with
  | case1 chosen | case2 chosen => cases auto.symm.trans chosen
  | case3 _ _ after found =>
    rw [found] at first
    exact .sentry first (final_ok _)
  | case4 _ detail after broke =>
    rw [broke] at first
    exact .sentry first (final_fatal detail)
  | case5 _ fault ready soft refused _ after found =>
    rw [refused] at first
    cases first with
    | refused unheard =>
      rw [found] at second
      exact .gpser unheard second (final_ok _)
  | case6 _ fault ready soft refused detail after broke =>
    rw [refused] at first
    cases first with
    | refused unheard =>
      rw [broke] at second
      exact .gpser unheard second (final_fatal detail)
  | case7 _ fault ready soft refused _ after _ refused' =>
    rw [refused] at first
    cases first with
    | refused unheard =>
      rw [refused'] at second
      cases second with
      | refused unheard' => exact .neither

namespace Search

variable {m : Monitor σ} {got : Except Fault Unit × Monitor σ}

theorem begins (search : Search m got) : m.sentryProbe :: m.talks <:+ got.2.talks := by
  cases search with
  | sentry tried =>
    cases tried with
    | found | refused => exact List.suffix_rfl
  | gpser _ tried =>
    cases tried with
    | found | refused => exact List.suffix_cons ..
  | neither => exact List.suffix_cons ..

theorem found (search : Search m got) (succeeded : got.1 = .ok ()) :
    (got.2.dialect.family = .sentry ↔ m.sentryProbe.Brings 103) ∧
    (¬m.sentryProbe.Brings 103 → got.2.dialect.family = .gpser ∧ m.gpserProbe.Brings 68 ∧
      m.gpserProbe :: m.sentryProbe :: m.talks <:+ got.2.talks) := by
  cases search with
  | sentry tried =>
    cases tried with
    | found brings spoken =>
      exact ⟨iff_of_true spoken brings, fun unheard => absurd brings unheard⟩
    | refused => cases succeeded
  | gpser unheard tried =>
    cases tried with
    | found brings spoken =>
      constructor
      · apply iff_of_false _ unheard
        intro sentry
        cases sentry.symm.trans spoken
      · intro _
        exact ⟨spoken, brings, List.suffix_rfl⟩
    | refused => cases succeeded
  | neither => cases succeeded

theorem unfound (search : Search m got) (sentryless : ¬m.sentryProbe.Brings 103)
    (gpserless : ¬m.gpserProbe.Brings 68)
    (soft : ∀ talk ∈ [m.sentryProbe, m.gpserProbe], ∀ detail,
      talk.outcome ≠ .error (.fatal detail)) :
    got.1 = .error (.deviceNotFound "no GPSER or SENTRY reply") := by
  have unbroken {talk : Talk σ} (listed : talk ∈ [m.sentryProbe, m.gpserProbe]) {fault : Fault}
      (same : fault.isFatal = true → talk.outcome = .error fault) : fault.isFatal = false := by
    apply Fault.isFatal_eq_false
    rintro detail rfl
    exact soft talk listed detail (same rfl)
  cases search with
  | sentry tried final =>
    cases tried with
    | found brings => exact absurd brings sentryless
    | refused _ same => cases (final _ rfl).symm.trans (unbroken (by simp) same)
  | gpser _ tried final =>
    cases tried with
    | found brings => exact absurd brings gpserless
    | refused _ same => cases (final _ rfl).symm.trans (unbroken (by simp) same)
  | neither => rfl

end Search

/-- A search that fails leaves only talk behind. -/
theorem detect_behind {m after : Monitor σ} {fault : Fault}
    (failed : m.detect = (.error fault, after)) : ∃ talks link, after = m.behind talks link := by
  cases chosen : m.settings.family with
  | gpser =>
    have tried := m.identifyGpser_recognition
    simp only [detect, chosen] at failed
    rw [failed] at tried
    cases tried with
    | refused => exact ⟨[_], _, rfl⟩
  | sentry =>
    have tried := m.identifySentry_recognition
    simp only [detect, chosen] at failed
    rw [failed] at tried
    cases tried with
    | refused => exact ⟨[_], _, rfl⟩
  | auto =>
    have search := detect_search chosen
    rw [failed] at search
    cases search with
    | sentry tried =>
      cases tried with
      | refused => exact ⟨[_], _, rfl⟩
    | gpser _ tried =>
      cases tried with
      | refused => exact ⟨[_, _], _, rfl⟩
    | neither => exact ⟨[_, _], _, rfl⟩

/-! ## Establishing -/

/-- A stretch that talks to the unit as it was found, and that only a fatal fault breaks off. -/
structure GoesOn (m : Monitor σ) (got : Except Fault Unit × Monitor σ) : Prop where
  dialect : got.2.dialect = m.dialect
  talks : m.talks <:+ got.2.talks
  final : Final got.1

omit [Device σ] in
theorem GoesOn.after {a b : Monitor σ} {outcome : Except Fault Unit}
    {got : Except Fault Unit × Monitor σ} (later : GoesOn b got) (first : GoesOn a (outcome, b)) :
    GoesOn a got where
  dialect := later.dialect.trans first.dialect
  talks := first.talks.trans later.talks
  final := later.final

theorem publishNominal_goesOn (m : Monitor σ) : GoesOn m m.publishNominal := by
  have asked : m.readNominal.2.dialect = m.dialect := by
    fun_cases readNominal m with
    | case1 | case2 => exact ask_dialect ..
  obtain ⟨talks, news, account⟩ := m.publishNominal_account
  obtain ⟨same, final⟩ : m.publishNominal.2.dialect = m.dialect ∧ Final m.publishNominal.1 := by
    fun_cases publishNominal m with
    | case1 _ after read | case3 _ after _ read =>
      rw [read] at asked
      exact ⟨asked, final_ok _⟩
    | case2 detail after read =>
      rw [read] at asked
      exact ⟨asked, final_fatal detail⟩
  exact ⟨same, ⟨talks, account.recorded.symm⟩, final⟩

theorem tryStatusCodes_goesOn (m : Monitor σ) : GoesOn m m.tryStatusCodes := by
  have asked : m.readStatusCodes.2.dialect = m.dialect := by
    fun_cases readStatusCodes m with
    | case1 => rfl
    | case2 _ _ after read | case3 _ after read | case4 _ _ after _ read =>
      have same := m.ask_dialect (GpserCommand.readStatusCodes.encode m.dialect.mode) .statusCodes
      rw [read] at same
      exact same
  obtain ⟨talks, account⟩ := m.tryStatusCodes_account
  obtain ⟨same, final⟩ : m.tryStatusCodes.2.dialect = m.dialect ∧ Final m.tryStatusCodes.1 := by
    fun_cases tryStatusCodes m with
    | case1 detail after read =>
      rw [read] at asked
      exact ⟨asked, final_fatal detail⟩
    | case2 _ after _ read =>
      rw [read] at asked
      exact ⟨asked, final_ok _⟩
  exact ⟨same, ⟨talks, account.recorded.symm⟩, final⟩

/-- How establishing ends: with the first open, with the search for the family, or behind it. -/
inductive Establishing (m : Monitor σ) : Except Fault Unit × Monitor σ → Prop
  | unopened {fault : Fault} {link : Link σ}
      (failed : m.openFirst = (.error fault, { m with link })) :
      Establishing m (.error fault, { m with link })
  | unfound {link : Link σ} (opened : m.openFirst = (.ok (), { m with link }))
      {fault : Fault} {after : Monitor σ}
      (failed : Monitor.detect { m with link } = (.error fault, after)) :
      Establishing m (.error fault, after)
  | found {link : Link σ} (opened : m.openFirst = (.ok (), { m with link })) {known : Monitor σ}
      (found : Monitor.detect { m with link } = (.ok (), known))
      {got : Except Fault Unit × Monitor σ} (behind : GoesOn known got) : Establishing m got

theorem establish_establishing (m : Monitor σ) : Establishing m m.establish := by
  have opening {outcome : Except Fault Unit} {ready : Monitor σ}
      (opened : m.openFirst = (outcome, ready)) : ∃ link, ready = { m with link } := by
    revert opened
    fun_cases openFirst m with
    | case1 _ link | case2 _ link =>
      rintro ⟨⟩
      exact ⟨_, rfl⟩
  have posted (known : Monitor σ) (notices : List Notice) :
      GoesOn known (.ok (), known.post notices) := ⟨rfl, List.suffix_rfl, final_ok _⟩
  fun_cases establish m with
  | case1 fault ready refused =>
    obtain ⟨link, rfl⟩ := opening refused
    exact .unopened refused
  | case2 _ ready opened fault after refused =>
    obtain ⟨link, rfl⟩ := opening opened
    exact .unfound opened refused
  | case3 _ ready opened _ known found named fault after refused =>
    obtain ⟨link, rfl⟩ := opening opened
    have first := named.publishNominal_goesOn
    rw [refused] at first
    exact .found opened found (first.after (posted known _))
  | case4 _ ready opened _ known found named _ rated read fault after refused =>
    obtain ⟨link, rfl⟩ := opening opened
    have first := named.publishNominal_goesOn
    rw [read] at first
    have second := rated.tryStatusCodes_goesOn
    rw [refused] at second
    exact .found opened found ((second.after first).after (posted known _))
  | case5 _ ready opened _ known found named _ rated read _ after tried =>
    obtain ⟨link, rfl⟩ := opening opened
    have first := named.publishNominal_goesOn
    rw [read] at first
    have second := rated.tryStatusCodes_goesOn
    rw [tried] at second
    have third := (posted after (Publishing.commands after.dialect.family)).after second
    exact .found opened found ((third.after first).after (posted known _))

/-- **Establishing succeeds, or is broken off, or changes nothing.** A failure that is not fatal
leaves all but the link and the record of talks as it was. If the family is left open, a clean reply
to the first probe makes it SENTRY, and else a clean reply of full length to the second GPSER. -/
theorem establish_all_or_nothing (m : Monitor σ) :
    let got := m.establish
    (∀ fault, got.1 = .error fault → fault.isFatal = false →
      ∃ talks link, got.2 = m.behind talks link) ∧
    (∀ fault, m.openFirst.1 = .error fault → got.1 = .error fault) ∧
    (m.settings.family = .auto → m.openFirst.1 = .ok () →
      let sentry := m.openFirst.2.sentryProbe
      let gpser := m.openFirst.2.gpserProbe
      sentry :: m.talks <:+ got.2.talks ∧
      (got.1 = .ok () →
        (got.2.dialect.family = .sentry ↔ sentry.Clean) ∧
        (¬sentry.Clean → got.2.dialect.family = .gpser ∧ gpser.Brings 68 ∧
          gpser :: sentry :: m.talks <:+ got.2.talks)) ∧
      (¬sentry.Clean → ¬gpser.Brings 68 →
        (∀ talk ∈ [sentry, gpser], ∀ detail, talk.outcome ≠ .error (.fatal detail)) →
        got.1 = .error (.deviceNotFound "no GPSER or SENTRY reply"))) := by
  intro got
  have ends : Establishing m got := m.establish_establishing
  clear_value got
  cases ends with
  | unopened failed =>
    refine ⟨fun _ _ _ => ⟨[], _, rfl⟩, fun fault same => ?_, fun _ opened => ?_⟩
    · rw [failed] at same
      exact same
    · rw [failed] at opened
      cases opened
  | @unfound link opened fault after failed =>
    rw [opened]
    refine ⟨fun _ _ _ => ?_, nofun, fun auto _ => ?_⟩
    · obtain ⟨talks, link, rfl⟩ := detect_behind failed
      exact ⟨talks, link, rfl⟩
    · have search : Search { m with link } _ := detect_search auto
      rw [failed] at search
      refine ⟨search.begins, nofun, fun sentryless gpserless soft => ?_⟩
      exact search.unfound (mt (brings_iff_clean rfl).mp sentryless) gpserless soft
  | @found link opened known found got behind =>
    rw [opened]
    refine ⟨fun fault failed soft => ?_, nofun, fun auto _ => ?_⟩
    · cases soft.symm.trans (behind.final fault failed)
    · have search : Search { m with link } _ := detect_search auto
      rw [found] at search
      obtain ⟨speaks, heard⟩ := search.found rfl
      rw [sentryProbe, brings_iff_clean rfl] at speaks heard
      refine ⟨search.begins.trans behind.talks, fun _ => ⟨?_, fun sentryless => ?_⟩, ?_⟩
      · rw [behind.dialect]
        exact speaks
      · obtain ⟨family, brings, recorded⟩ := heard sentryless
        exact ⟨behind.dialect ▸ family, brings, recorded.trans behind.talks⟩
      · intro sentryless gpserless soft
        exact absurd (heard sentryless).2.1 gpserless

end Monitor

end UpsMonitor
