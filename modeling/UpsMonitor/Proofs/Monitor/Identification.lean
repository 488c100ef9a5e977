import UpsMonitor.Proofs.Monitor.Operation
import UpsMonitor.Proofs.Usb.Handles
import UpsMonitor.Usb.Bench

/-!
# Identification

Over which handles a poll asks for the status. The trust in a unit ends with the handle over which
it was identified, unless the new handle escapes notice, for which there are two ways. Main
statements:

* `carryOut_sound`: which handles are trusted, through every command;
* `poll_asks_identified`: a poll asks over a handle over which the unit was identified, unless the
  handle before it was given up at a fatal fault or its being new was overlooked;
* `asks_after_refusal`: a poll that asks over a handle over which the unit was not identified.
-/

namespace UpsMonitor

variable {σ : Type}

/-! ## What a talk tells about a handle -/

/-- A reply that identifies a unit. What a SENTRY unit replies must also tell its layout. -/
structure Reading.Identifies (reading : Reading) : Prop where
  clean : reading.Clean
  read : ∃ s after, reading.onto s = .ok after
  kind : reading.kind = .identity ∨
    reading.command = SentryCommand.identify.encode ∧
      ∃ level, Sentry.resolve reading.frame.bytes = .ok level

namespace Talk

/-- The handle that the command was carried out over. -/
def handle (talk : Talk σ) : Nat := talk.link.handles

def Identifies (talk : Talk σ) : Prop :=
  ∃ reading : Reading, reading.said = talk.said ∧ reading.Identifies

theorem Identifies.unflagged {talk : Talk σ} (identifies : talk.Identifies) : talk.Clean := by
  obtain ⟨reading, said, identity⟩ := identifies
  have answered : .ok reading.frame = talk.outcome := congrArg Prod.snd said
  exact ⟨reading.frame, answered.symm, identity.clean.accepted, identity.clean.intact⟩

theorem Identifies.clean {talk : Talk σ} (identifies : talk.Identifies) :
    talk.outcome.toOption.any Frame.clean = true := by
  obtain ⟨frame, answer, accepted, intact⟩ := identifies.unflagged
  simp [answer, Except.toOption, Frame.clean, accepted, intact]

/-- A talk whose fatal fault had the link give up its handle. -/
def GivesUp (talk : Talk σ) : Prop :=
  talk.link.connection = .closed ∧ ∃ detail, talk.outcome = .error (.fatal detail)

/-- A talk that asked for the status of a unit. -/
inductive AsksStatus (talk : Talk σ) : Prop
  | status (mode : CheckMode) (asked : talk.command = GpserCommand.readStatus.encode mode)
  | extended (mode : CheckMode) (asked : talk.command = GpserCommand.readExtended.encode mode)
  | telemetry (level : Extension) (asked : talk.command = (SentryCommand.request level).encode)

theorem AsksStatus.name {talk : Talk σ} (asks : talk.AsksStatus) :
    talk.command.name ∈ ["RS", "RE", "request"] := by
  cases asks with
  | status mode asked | extended mode asked =>
    rw [asked]
    simp [GpserCommand.encode, GpserCommand.name]
  | telemetry level asked =>
    rw [asked]
    simp [SentryCommand.encode, SentryCommand.name]

end Talk

variable [Device σ]

/-- The step took the news that a handle was opened anew, and then the unit could not be identified.
Its earlier identification, over another handle, still counts. -/
structure Step.Overlooks (step : Step σ) (handle : Nat) : Prop where
  establishes : step.operation = .establish
  identified : step.before.identified = true
  news : step.before.link.connection = .reconnecting ∨ step.before.link.reopened = true
  opened : step.before.openFirst.1 = .ok ()
  refused : ∃ fault, step.before.openFirst.2.detect.1 = .error fault
  same : step.before.openFirst.2.link.handles = handle

namespace Monitor

/-- Why a handle is trusted: because the unit was identified over it, or else because its being new
escaped notice, either as the handle before it was given up or as it was overlooked. -/
inductive Trusted (overlooked : Nat → Prop) (talks : List (Talk σ)) (handle : Nat) : Prop
  | identified {talk : Talk σ} (member : talk ∈ talks) (identifies : talk.Identifies)
      (same : talk.handle = handle)
  | given {talk : Talk σ} (member : talk ∈ talks) (given : talk.GivesUp)
      (next : talk.handle + 1 = handle)
  | overlooked (missed : overlooked handle)

/-- If the unit counts as identified, there is a reason to trust the handle that is held, unless it
is known to be new, and a link that is closed gave up its handle. -/
structure Sound (overlooked : Nat → Prop) (m : Monitor σ) : Prop where
  held : m.link.connection = .opened → m.identified = true → m.link.reopened = false →
    Trusted overlooked m.talks m.link.handles
  given : m.link.connection = .closed → m.identified = true →
    ∃ talk ∈ m.talks, talk.GivesUp ∧ talk.handle = m.link.handles

/-- A handle is held, and there is a reason to trust it. -/
structure Known (overlooked : Nat → Prop) (m : Monitor σ) : Prop where
  opened : m.link.connection = .opened
  trusted : Trusted overlooked m.talks m.link.handles

section
omit [Device σ]
variable {overlooked : Nat → Prop} {m : Monitor σ} {talks : List (Talk σ)} {handle : Nat}

theorem Trusted.later (trusted : Trusted overlooked talks handle) (news : List (Talk σ)) :
    Trusted overlooked (news ++ talks) handle := by
  cases trusted with
  | identified member identifies same =>
    exact .identified (List.mem_append_right _ member) identifies same
  | given member gives next => exact .given (List.mem_append_right _ member) gives next
  | overlooked missed => exact .overlooked missed

theorem Trusted.weaken {wider : Nat → Prop} (trusted : Trusted overlooked talks handle)
    (weaker : ∀ handle, overlooked handle → wider handle) : Trusted wider talks handle := by
  cases trusted with
  | identified member identifies same => exact .identified member identifies same
  | given member gives next => exact .given member gives next
  | overlooked missed => exact .overlooked (weaker _ missed)

theorem Sound.weaken {wider : Nat → Prop} (sound : Sound overlooked m)
    (weaker : ∀ handle, overlooked handle → wider handle) : Sound wider m where
  held opened identified news := (sound.held opened identified news).weaken weaker
  given := sound.given

/-- What is not identified is not trusted. -/
theorem sound_of_unidentified (unknown : m.identified = false) : Sound overlooked m where
  held _ identified := by simp [unknown] at identified
  given _ identified := by simp [unknown] at identified

theorem Known.sound (known : Known overlooked m) : Sound overlooked m where
  held _ _ _ := known.trusted
  given closed := by simp [known.opened] at closed

/-- A new handle that escapes notice follows one that was given up. -/
theorem Sound.trusted (sound : Sound overlooked m) {link : Link σ} (holds : m.link.Holds link)
    (identified : m.identified = true) (quiet : link.reopened = false) :
    Trusted overlooked m.talks link.handles := by
  cases holds with
  | kept held same news =>
    rw [same]
    exact sound.held held identified (news.symm.trans quiet)
  | unannounced closed next news =>
    obtain ⟨talk, member, gives, last⟩ := sound.given closed identified
    exact .given member gives (by rw [last, next])
  | announced lost next news => cases news.symm.trans quiet

theorem Sound.unopened (sound : Sound overlooked m) {after : Monitor σ}
    (unopened : m.link.Unopened after.link) (same : after.identified = m.identified)
    (recorded : m.talks ⊆ after.talks) : Sound overlooked after where
  held opened := absurd (unopened.connection.symm.trans opened) unopened.down
  given closed identified := by
    obtain ⟨talk, member, gives, last⟩ :=
      sound.given (unopened.connection.symm.trans closed) (same.symm.trans identified)
    exact ⟨talk, recorded member, gives, last.trans unopened.same.symm⟩

end

variable {overlooked : Nat → Prop} {m : Monitor σ}

/-! ## Asking -/

/-- **Every command keeps what is known of the handles.** Behind a handle that is closed is the
fatal fault of the command that gave it up. -/
theorem carryOut_sound (sound : Sound overlooked m) (command : Command) :
    Sound overlooked (m.heard (m.talk command)) := by
  obtain ⟨-, unopened⟩ | ⟨holds, -, fatal⟩ := m.link.execute_holds command
  · exact sound.unopened unopened rfl (List.subset_cons_self ..)
  · constructor
    · intro opened identified quiet
      exact (sound.trusted holds identified quiet).later [m.talk command]
    · intro closed identified
      exact ⟨m.talk command, List.mem_cons_self .., ⟨closed, fatal closed⟩, rfl⟩

theorem opened_of_answer {command : Command} {frame : Frame}
    (answer : (m.talk command).outcome = .ok frame) :
    (m.talk command).link.connection = .opened := by
  obtain ⟨⟨fault, refused⟩, -⟩ | ⟨-, answered, -⟩ := m.link.execute_holds command
  · cases answer.symm.trans refused
  · exact answered frame answer

theorem handle_of_opened (opened : m.link.connection = .opened) (command : Command) :
    (m.talk command).handle = m.link.handles := by
  obtain ⟨-, unopened⟩ | ⟨holds, -, -⟩ := m.link.execute_holds command
  · exact absurd opened unopened.down
  · cases holds with
    | kept _ same _ => exact same
    | unannounced closed => cases closed.symm.trans opened
    | announced lost => cases lost.symm.trans opened

section
variable {command : Command} {kind : Reply} {outcome : Except Fault Frame} {after : Monitor σ}

theorem ask_sound (asked : m.ask command kind = (outcome, after)) (sound : Sound overlooked m) :
    Sound overlooked after := by
  have behind := carryOut_sound sound command
  obtain ⟨frame, s, -, -, -, -, ends⟩ | ⟨fault, ends, -⟩ := m.ask_cases command kind
  · obtain ⟨-, rfl⟩ := Prod.mk.inj (asked.symm.trans ends)
    exact ⟨behind.held, behind.given⟩
  · obtain ⟨-, rfl⟩ := Prod.mk.inj (asked.symm.trans ends)
    exact behind

theorem ask_talks (asked : m.ask command kind = (outcome, after)) :
    after.talks = m.talk command :: m.talks := by
  obtain ⟨frame, s, -, -, -, -, ends⟩ | ⟨fault, ends, -⟩ := m.ask_cases command kind
  · obtain ⟨-, rfl⟩ := Prod.mk.inj (asked.symm.trans ends)
    rfl
  · obtain ⟨-, rfl⟩ := Prod.mk.inj (asked.symm.trans ends)
    rfl

/-- Asking goes on over the same handle if it is answered. -/
theorem Known.ask {frame : Frame} (known : Known overlooked m)
    (asked : m.ask command kind = (.ok frame, after)) :
    Known overlooked after ∧ after.link.handles = m.link.handles := by
  have same := handle_of_opened known.opened command
  obtain ⟨reply, s, answer, -, -, -, ends⟩ | ⟨fault, ends, -⟩ := m.ask_cases command kind
  · obtain ⟨-, rfl⟩ := Prod.mk.inj (asked.symm.trans ends)
    have link : ({ m.heard (m.talk command) with snapshot := s } : Monitor σ).link.handles =
        m.link.handles := same
    refine ⟨⟨opened_of_answer answer, ?_⟩, link⟩
    rw [link]
    exact known.trusted.later [m.talk command]
  · cases asked.symm.trans ends

/-- A reply that identifies the unit makes the handle known. -/
theorem known_of_answer {frame : Frame} (asked : m.ask command kind = (.ok frame, after))
    (answers : kind.Answers command)
    (identifies : kind = .identity ∨ command = SentryCommand.identify.encode ∧
      ∃ level, Sentry.resolve frame.bytes = .ok level) : Known overlooked after := by
  obtain ⟨reply, s, answer, accepted, intact, read, ends⟩ | ⟨fault, ends, -⟩ :=
    m.ask_cases command kind
  · obtain ⟨same, rfl⟩ := Prod.mk.inj (asked.symm.trans ends)
    obtain rfl := Except.ok.inj same
    have identity : Reading.Identifies ⟨kind, command, frame⟩ :=
      ⟨⟨answers, accepted, intact⟩, ⟨m.snapshot, s, read⟩, identifies⟩
    exact ⟨opened_of_answer answer, .identified (List.mem_cons_self ..)
      ⟨⟨kind, command, frame⟩, congrArg (command, ·) answer.symm, identity⟩ rfl⟩
  · cases asked.symm.trans ends

end

/-! ## Identifying -/

/-- What trying to identify the unit comes to: if it succeeds, the handle is known. -/
structure Probes (m : Monitor σ) (got : Except Fault Unit × Monitor σ) : Prop where
  sound : ∀ overlooked, Sound overlooked m → Sound overlooked got.2
  known : got.1 = .ok () → ∀ overlooked, Known overlooked got.2

section
omit [Device σ]

theorem Probes.after {a b : Monitor σ} {got : Except Fault Unit × Monitor σ} (probes : Probes b got)
    (behind : ∀ overlooked, Sound overlooked a → Sound overlooked b) : Probes a got where
  sound overlooked sound := probes.sound overlooked (behind overlooked sound)
  known := probes.known

theorem probes_of_sound {m after : Monitor σ} {fault : Fault}
    (sound : ∀ overlooked, Sound overlooked m → Sound overlooked after) :
    Probes m (.error fault, after) :=
  ⟨sound, nofun⟩

theorem probes_of_known {m after : Monitor σ} (known : ∀ overlooked, Known overlooked after) :
    Probes m (.ok (), after) :=
  ⟨fun overlooked _ => (known overlooked).sound, fun _ => known⟩

theorem Sound.posted (sound : Sound overlooked m) (notices : List Notice) :
    Sound overlooked (m.post notices) :=
  ⟨sound.held, sound.given⟩

theorem Known.settled (known : Known overlooked m) (dialect : Dialect) (identified : Bool) :
    Known overlooked { m with dialect, identified } :=
  ⟨known.opened, known.trusted⟩

end

theorem identifyGpser_probes (m : Monitor σ) : Probes m m.identifyGpser := by
  fun_cases identifyGpser m with
  | case1 fault after refused => exact probes_of_sound fun _ => ask_sound refused
  | case2 frame after asked dialect =>
    have known (overlooked : Nat → Prop) : Known overlooked after :=
      known_of_answer asked .identity (.inl rfl)
    exact probes_of_known fun overlooked => (known overlooked).settled dialect true

theorem identifySentry_probes (m : Monitor σ) : Probes m m.identifySentry := by
  fun_cases identifySentry m with
  | case1 fault after refused => exact probes_of_sound fun _ => ask_sound refused
  | case2 frame after asked spoken fault refused =>
    refine probes_of_sound fun overlooked sound => ?_
    have behind := ask_sound asked sound
    exact ⟨behind.held, behind.given⟩
  | case3 frame after asked spoken level resolved dialect =>
    have known (overlooked : Nat → Prop) : Known overlooked after :=
      known_of_answer asked .basic (.inr ⟨rfl, level, resolved⟩)
    exact probes_of_known fun overlooked => (known overlooked).settled dialect true

theorem identify_probes (m : Monitor σ) : Probes m m.identify := by
  fun_cases identify m with
  | case1 => exact m.identifyGpser_probes
  | case2 => exact m.identifySentry_probes

theorem detect_probes (m : Monitor σ) : Probes m m.detect := by
  fun_cases detect m with
  | case1 => exact m.identifyGpser_probes
  | case2 => exact m.identifySentry_probes
  | case3 _ _ after identified | case4 _ _ after identified =>
    have first := m.identifySentry_probes
    rwa [identified] at first
  | case5 _ fault first soft refused _ second identified
  | case6 _ fault first soft refused _ second identified =>
    have probed := m.identifySentry_probes.sound
    rw [refused] at probed
    have behind := first.identifyGpser_probes.after probed
    rwa [identified] at behind
  | case7 _ fault first soft refused _ second _ refused' =>
    have probed := m.identifySentry_probes.sound
    rw [refused] at probed
    have behind := (first.identifyGpser_probes.after probed).sound
    rw [refused'] at behind
    exact probes_of_sound behind

theorem detect_known {known : Monitor σ} (found : m.detect = (.ok (), known)) :
    Known overlooked known := by
  have probed := m.detect_probes.known
  rw [found] at probed
  exact probed rfl overlooked

/-! ## Establishing -/

/-- Establishing takes the news of a handle, so that it must be noted if that was in vain. -/
theorem openFirst_sound (sound : Sound overlooked m)
    (noted : m.openFirst.1 = .ok () → m.identified = true →
      m.link.connection = .reconnecting ∨ m.link.reopened = true →
      overlooked m.openFirst.2.link.handles) : Sound overlooked m.openFirst.2 := by
  fun_cases openFirst m with
  | case1 fault link refused =>
    exact sound.unopened (Link.unopened_of_error refused) rfl (List.Subset.refl _)
  | case2 _ link opened =>
    have ends : m.openFirst = (.ok (), { m with link := link.takeReopened.2 }) := by
      simp only [openFirst, opened]
    rw [ends] at noted
    obtain ⟨held, holds⟩ := Link.holds_of_ok opened
    refine ⟨fun _ identified _ => ?_, fun closed => by cases held.symm.trans closed⟩
    cases quiet : link.reopened with
    | false =>
      have trusted : Trusted overlooked m.talks link.handles :=
        sound.trusted holds identified quiet
      exact trusted
    | true =>
      refine .overlooked (noted rfl identified ?_)
      cases holds with
      | kept _ _ news | unannounced _ _ news => exact .inr (news.symm.trans quiet)
      | announced lost _ _ => exact .inl lost

theorem publishNominal_sound (sound : Sound overlooked m) :
    Sound overlooked m.publishNominal.2 := by
  have behind : Sound overlooked m.readNominal.2 := by
    fun_cases readNominal m with
    | case1 | case2 => exact ask_sound rfl sound
  fun_cases publishNominal m with
  | case1 _ after read =>
    rw [read] at behind
    exact ⟨behind.held, behind.given⟩
  | case2 _ after read | case3 _ after _ read => rwa [read] at behind

theorem readStatusCodes_sound (sound : Sound overlooked m) :
    Sound overlooked m.readStatusCodes.2 := by
  fun_cases readStatusCodes m with
  | case1 => exact sound
  | case2 _ _ after read | case3 _ after read | case4 _ _ after _ read => exact ask_sound read sound

theorem tryStatusCodes_sound (sound : Sound overlooked m) :
    Sound overlooked m.tryStatusCodes.2 := by
  have behind := readStatusCodes_sound sound
  fun_cases tryStatusCodes m with
  | case1 _ after read | case2 _ after _ read => rwa [read] at behind

theorem establish_sound (sound : Sound overlooked m)
    (noted : ∀ handle, Step.Overlooks ⟨m, .establish⟩ handle → overlooked handle) :
    Sound overlooked m.establish.2 := by
  fun_cases establish m with
  | case1 fault ready refused =>
    have behind : Sound overlooked m.openFirst.2 := openFirst_sound sound fun succeeded => by
      rw [refused] at succeeded
      cases succeeded
    rwa [refused] at behind
  | case2 _ ready opened fault after refused =>
    -- The unit was not identified, so it matters whether the handle was known to be new.
    have behind : Sound overlooked m.openFirst.2 := openFirst_sound sound fun succeeded identified
        news => noted _ ⟨rfl, identified, news, succeeded, ⟨fault, by rw [opened, refused]⟩, rfl⟩
    rw [opened] at behind
    have probed := ready.detect_probes.sound overlooked behind
    rwa [refused] at probed
  | case3 _ ready opened _ known found named fault after refused =>
    have behind : Sound overlooked named := (detect_known found).sound.posted _
    have read := publishNominal_sound behind
    rwa [refused] at read
  | case4 _ ready opened _ known found named _ rated read fault after refused =>
    have behind : Sound overlooked named := (detect_known found).sound.posted _
    have behind := publishNominal_sound behind
    rw [read] at behind
    have tried := tryStatusCodes_sound behind
    rwa [refused] at tried
  | case5 _ ready opened _ known found named _ rated read _ after tried =>
    have behind : Sound overlooked named := (detect_known found).sound.posted _
    have behind := publishNominal_sound behind
    rw [read] at behind
    have behind := tryStatusCodes_sound behind
    rw [tried] at behind
    exact behind.posted _

/-! ## Polling -/

/-- A handle that is held behind this is known, and it is over this handle that a poll goes on. -/
theorem ensureIdentified_sound (sound : Sound overlooked m) :
    Sound overlooked m.ensureIdentified.2 ∧
      (m.ensureIdentified.1 = .ok () → Known overlooked m.ensureIdentified.2) := by
  fun_cases ensureIdentified m with
  | case1 fault link refused =>
    have behind : Sound overlooked { m with link } :=
      sound.unopened (Link.unopened_of_error refused) rfl (List.Subset.refl _)
    exact ⟨behind, fun found => by cases found⟩
  | case2 _ link opened reopened taken news ready counted =>
    obtain ⟨held, holds⟩ := Link.holds_of_ok opened
    obtain ⟨rfl, rfl⟩ : link.reopened = reopened ∧ { link with reopened := false } = taken :=
      Prod.mk.inj news
    obtain ⟨identified, quiet⟩ : m.identified = true ∧ link.reopened = false := by
      simpa [ready] using counted
    have trusted : Trusted overlooked m.talks link.handles :=
      sound.trusted holds identified quiet
    have known : Known overlooked ready := ⟨held, trusted⟩
    exact ⟨known.sound, fun _ => known⟩
  | case3 _ link opened reopened taken news ready untrusted =>
    have unknown : ready.identified = false := by simpa using untrusted
    have probed := ready.identify_probes
    exact ⟨probed.sound _ (sound_of_unidentified unknown), fun found => probed.known found _⟩

theorem readExtended_sound (sound : Sound overlooked m) :
    Sound overlooked m.readExtended.2 := by
  fun_cases readExtended m with
  | case1 _ after asked | case2 _ after asked | case3 _ after _ asked => exact ask_sound asked sound

theorem readStatus_sound (sound : Sound overlooked m) : Sound overlooked m.readStatus.2 := by
  fun_cases readStatus m with
  | case1 _ fault after asked | case3 _ fault after asked | case4 _ frame after asked =>
    exact ask_sound asked sound
  | case2 _ frame after asked => exact readExtended_sound (ask_sound asked sound)

theorem poll_sound (sound : Sound overlooked m) : Sound overlooked m.poll.2 := by
  have refreshed : Sound overlooked m.refresh.2 := by
    have ready := (ensureIdentified_sound sound).1
    fun_cases refresh m with
    | case1 fault after refused => rwa [refused] at ready
    | case2 _ after identified =>
      rw [identified] at ready
      exact readStatus_sound ready
  obtain ⟨extended, -, polled⟩ | ⟨detail, -, polled⟩ | ⟨fault, -, -, polled⟩ := m.poll_cases
  · rw [polled]
    exact ⟨refreshed.held, refreshed.given⟩
  · rw [polled]
    exact refreshed
  · rw [polled]
    exact ⟨by simpa using refreshed.held, by simpa using refreshed.given⟩

/-! ## Runs -/

theorem Commanded.sound {after : Monitor σ} (commanded : Commanded m after)
    (sound : Sound overlooked m) : Sound overlooked after := by
  induction commanded with
  | start => exact sound
  | next _ command ih => exact carryOut_sound ih command

theorem step_sound (sound : Sound overlooked m) (operation : Operation)
    (noted : ∀ handle, Step.Overlooks ⟨m, operation⟩ handle → overlooked handle) :
    Sound overlooked (operation.perform m) := by
  cases operation with
  | establish => exact establish_sound sound noted
  | poll => exact poll_sound sound
  | readStatusCodes => exact readStatusCodes_sound sound
  | instant name => exact (m.instant_commanded name).sound sound
  | shutdown => exact (shutdownWithin_commanded _ m).sound sound

/-- The handles whose being new was overlooked in a run. -/
def overlookedIn (steps : List (Step σ)) (handle : Nat) : Prop :=
  ∃ step ∈ steps, step.Overlooks handle

theorem run_sound {link : Link σ} {settings : Settings} {steps : List (Step σ)}
    (run : Run (ofLink link settings) steps m) : Sound (overlookedIn steps) m := by
  induction run with
  | start => exact sound_of_unidentified rfl
  | step run operation ih =>
    refine step_sound (ih.weaken fun handle missed => ?_) operation fun handle overlooks => ?_
    · obtain ⟨step, member, overlooks⟩ := missed
      exact ⟨step, List.mem_cons_of_mem _ member, overlooks⟩
    · exact ⟨_, List.mem_cons_self .., overlooks⟩
  | meddled run device ih => exact ⟨ih.held, ih.given⟩

/-! ## What a poll asks over -/

theorem identifyGpser_talks (m : Monitor σ) :
    m.identifyGpser.2.talks = m.talk (GpserCommand.identify.encode .sum) :: m.talks := by
  fun_cases identifyGpser m with
  | case1 _ after asked | case2 _ after asked =>
    have said := ask_talks asked
    exact said

theorem identifySentry_talks (m : Monitor σ) :
    m.identifySentry.2.talks = m.talk SentryCommand.identify.encode :: m.talks := by
  fun_cases identifySentry m with
  | case1 _ after asked | case2 _ after asked | case3 _ after asked =>
    have said := ask_talks asked
    exact said

/-- Identifying is not asking for the status. -/
theorem identify_talks (m : Monitor σ) :
    ∃ talk, m.identify.2.talks = talk :: m.talks ∧ ¬talk.AsksStatus := by
  fun_cases identify m with
  | case1 =>
    refine ⟨_, m.identifyGpser_talks, fun asks => ?_⟩
    have named : GpserCommand.identify.name ∈ ["RS", "RE", "request"] := asks.name
    exact absurd named (by decide)
  | case2 =>
    refine ⟨_, m.identifySentry_talks, fun asks => ?_⟩
    have named : SentryCommand.identify.name ∈ ["RS", "RE", "request"] := asks.name
    exact absurd named (by decide)

theorem ensureIdentified_talks (m : Monitor σ) :
    ∃ identifying, m.ensureIdentified.2.talks = identifying ++ m.talks ∧
      ∀ talk ∈ identifying, ¬talk.AsksStatus := by
  fun_cases ensureIdentified m with
  | case1 | case2 => exact ⟨[], rfl, by simp⟩
  | case3 _ link opened reopened taken news ready untrusted =>
    obtain ⟨talk, recorded, other⟩ := ready.identify_talks
    exact ⟨[talk], recorded, by simpa using other⟩

theorem readExtended_talks (m : Monitor σ) :
    m.readExtended.2.talks =
      m.talk (GpserCommand.readExtended.encode m.dialect.mode) :: m.talks := by
  fun_cases readExtended m with
  | case1 _ after asked | case2 _ after asked | case3 _ after _ asked => exact ask_talks asked

/-- All requests for the status go over the handle that is known. -/
theorem readStatus_talks (known : Known overlooked m) :
    ∃ asked, m.readStatus.2.talks = asked ++ m.talks ∧
      ∀ talk ∈ asked, talk.handle = m.link.handles := by
  fun_cases readStatus m with
  | case1 _ fault after asked | case3 _ fault after asked | case4 _ frame after asked =>
    exact ⟨[_], ask_talks asked, by simpa using handle_of_opened known.opened _⟩
  | case2 _ frame after asked =>
    obtain ⟨behind, same⟩ := known.ask asked
    refine ⟨[_, _], (readExtended_talks after).trans (congrArg _ (ask_talks asked)), ?_⟩
    simp only [List.forall_mem_cons, List.not_mem_nil, false_imp_iff, implies_true, and_true]
    exact ⟨(handle_of_opened behind.opened _).trans same, handle_of_opened known.opened _⟩

theorem poll_talks (m : Monitor σ) : m.poll.2.talks = m.refresh.2.talks := by
  obtain ⟨extended, -, polled⟩ | ⟨detail, -, polled⟩ | ⟨fault, -, -, polled⟩ := m.poll_cases
  · rw [polled]
    rfl
  · rw [polled]
  · rw [polled]
    exact m.refresh.2.missed_talks

/-- **A poll asks over identified handles, with two exceptions.** What a poll does is to identify
the unit, if at all, and then to ask for its status. Unless the handle before was given up at a
fatal fault, or the unit could not be established over this one, it was identified over it. -/
theorem poll_asks_identified {link : Link σ} {settings : Settings} {steps : List (Step σ)}
    (run : Run (ofLink link settings) steps m) :
    ∃ asked identifying, m.poll.2.talks = asked ++ (identifying ++ m.talks) ∧
      (∀ talk ∈ identifying, ¬talk.AsksStatus) ∧
      ∀ talk ∈ asked, Trusted (overlookedIn steps) (identifying ++ m.talks) talk.handle := by
  obtain ⟨identifying, recorded, others⟩ := m.ensureIdentified_talks
  obtain ⟨-, known⟩ := ensureIdentified_sound (run_sound run)
  rw [poll_talks]
  fun_cases refresh m with
  | case1 fault after refused =>
    rw [refused] at recorded
    exact ⟨[], identifying, recorded, others, by simp⟩
  | case2 _ ready identified =>
    rw [identified] at recorded known
    have known := known rfl
    obtain ⟨asked, said, same⟩ := readStatus_talks known
    refine ⟨asked, identifying, said.trans (congrArg _ recorded), others, fun talk member => ?_⟩
    rw [same talk member, ← recorded]
    exact known.trusted

/-- The identification of a unit that has nothing but zeros to tell. -/
def blankIdentity : Bytes :=
  let content := Wire.replyHeader ++ GpserCommand.identify.opcode ++ List.replicate 58 0x30
  Checksum.append .gpser .sum content ++ [Wire.etx]

/-- The handle is lost, establishing opens the next, and over this the unit does not identify
itself. The next poll asks over it all the same. -/
theorem asks_after_refusal :
    let gone : Except Fault Bytes := .error (.usb .noDevice "gone")
    let refusal : Bytes := [0x02, 0x22, 0x20, 0x15, 0x03]
    let bench := ((Bench.queueReply {} blankIdentity).queueRead gone).queueReply refusal
    let link : Link Bench :=
      { bus := { device := bench.queueRead gone }, matcher := ⟨0x04B4, 0x5500, none, none⟩ }
    let first := ofLink link {}
    let lost := Operation.poll.perform first
    let m := Operation.establish.perform lost
    ∃ talk earlier, m.poll.2.talks = talk :: earlier ∧ talk.AsksStatus ∧
      (¬∃ before ∈ earlier, before.Identifies ∧ before.handle = talk.handle) ∧
      Step.Overlooks ⟨lost, .establish⟩ talk.handle := by
  intro gone refusal bench link first lost m
  let tell (talk : Talk Bench) :=
    (talk.command, talk.handle, talk.outcome.toOption.any Frame.clean, talk.link.connection)
  have told : m.poll.2.talks.map tell =
      [(GpserCommand.readStatus.encode .sum, 2, false, .reconnecting),
        (GpserCommand.identify.encode .sum, 2, false, .opened),
        (GpserCommand.readStatus.encode .sum, 1, false, .reconnecting),
        (GpserCommand.identify.encode .sum, 1, true, .opened)] := by decide +kernel
  have count : m.talks.length = 3 := by decide +kernel
  obtain ⟨talk, earlier, said, new, old⟩ := List.map_eq_cons_iff.mp told
  obtain ⟨command, handle, -, -⟩ : talk.command = GpserCommand.readStatus.encode .sum ∧
      talk.handle = 2 ∧ talk.outcome.toOption.any Frame.clean = false ∧
      talk.link.connection = .reconnecting := by simpa [tell] using new
  have asks : talk.AsksStatus := .status .sum command
  have before (talk) (member : talk ∈ earlier) :
      (talk.Identifies → talk.handle = 1) ∧ talk.link.connection ≠ .closed := by
    have listed : tell talk ∈ earlier.map tell := List.mem_map_of_mem member
    rw [old] at listed
    refine ⟨fun identifies => ?_, fun closed => ?_⟩
    · obtain ⟨-, one, -⟩ : talk.command = _ ∧ talk.handle = 1 ∧ talk.link.connection = .opened := by
        simpa [tell, identifies.clean] using listed
      exact one
    · simp [tell, closed] at listed
  have run : Run first [⟨lost, .establish⟩, ⟨first, .poll⟩] m :=
    .step (.step .start .poll) .establish
  obtain ⟨asked, identifying, recorded, others, trusted⟩ := poll_asks_identified run
  rw [said] at recorded
  refine ⟨talk, earlier, said, asks, fun ⟨talk', member, identifies, same⟩ => ?_, ?_⟩
  · have one := (before talk' member).1 identifies
    omega
  cases asked with
  | nil =>
    cases identifying with
    | nil =>
      have lengths := congrArg List.length recorded
      have three := congrArg List.length old
      simp only [List.nil_append, List.length_cons, List.length_map, List.length_nil]
        at lengths three
      omega
    | cons other _ =>
      obtain ⟨rfl, -⟩ := List.cons.inj recorded
      exact absurd asks (others _ (List.mem_cons_self ..))
  | cons _ rest =>
    obtain ⟨rfl, rfl⟩ := List.cons.inj recorded
    cases trusted talk (List.mem_cons_self ..) with
    | identified member identifies same =>
      have one := (before _ (List.mem_append_right rest member)).1 identifies
      omega
    | given member gives _ =>
      exact absurd gives.1 (before _ (List.mem_append_right rest member)).2
    | overlooked missed =>
      obtain ⟨step, member, overlooks⟩ := missed
      cases member with
      | head => exact overlooks
      | tail _ member =>
        obtain rfl := List.mem_singleton.mp member
        cases overlooks.establishes

/-- The unit is identified, and the handle is given up when its status is asked for. The next poll
asks for it over a new handle, and identifies nothing. -/
example :
    let claimed : Except Fault Bytes := .error (.usb .busy "claimed")
    let bench := ((Bench.queueReply {} blankIdentity).queueRead claimed).queueRead claimed
    let link : Link Bench := { bus := { device := bench }, matcher := ⟨0x04B4, 0x5500, none, none⟩ }
    let m := Operation.poll.perform (Operation.poll.perform (ofLink link {}))
    m.talks.map (fun talk => (talk.command.name, talk.handle)) =
      [("RS", 2), ("RS", 1), ("GI", 1)] := by
  decide +kernel

end Monitor

end UpsMonitor
