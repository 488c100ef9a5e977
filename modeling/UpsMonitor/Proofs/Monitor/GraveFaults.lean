import UpsMonitor.Proofs.Monitor.Identification
import UpsMonitor.Proofs.Usb.GraveFaults
import UpsMonitor.Usb.Bench

/-!
# Polls and grave faults

Which failures end a poll for good. Main statements:

* `ask_uses`: a question is broken off by its transfers and never by what is wrong with its reply;
* `refresh_reaches`: so all of a poll but its end fails to open the device, or is broken off by a
  transfer, or not at all;
* `gives_up_on_transfers_only`: a grave fault is fatal if a transfer meets it, and is counted as any
  other if the device cannot be opened for it.
-/

namespace UpsMonitor.Monitor

variable {σ : Type} [Device σ]

/-- **What breaks off a question** is what breaks off its command. -/
theorem ask_uses {m after : Monitor σ} {command : Command} {kind : Reply}
    {outcome : Except Fault Frame} (held : m.link.connection = .opened)
    (asked : m.ask command kind = (outcome, after)) :
    ∃ done, m.link.Uses after.link (fatalText outcome) done := by
  have talked : ∃ done, m.link.Uses (m.heard (m.talk command)).link
      (fatalText (m.talk command).outcome) done := by
    rw [talk, Link.execute_of_held held]
    exact Link.attempt_uses command 1 held
  obtain ⟨done, uses⟩ := talked
  obtain ⟨frame, s, answer, -, -, -, ends⟩ | ⟨fault, ends, answer⟩ := m.ask_cases command kind
  · obtain ⟨rfl, rfl⟩ := Prod.mk.inj (asked.symm.trans ends)
    rw [answer] at uses
    exact ⟨done, uses⟩
  · obtain ⟨rfl, rfl⟩ := Prod.mk.inj (asked.symm.trans ends)
    rcases answer with same | ⟨frame, same, soft⟩
    · rw [same] at uses
      exact ⟨done, uses⟩
    · rw [same] at uses
      exact ⟨done, by simpa [fatalText, Fault.fatalText_of_soft soft] using uses⟩

theorem opened_of_ask {m after : Monitor σ} {command : Command} {kind : Reply} {frame : Frame}
    (asked : m.ask command kind = (.ok frame, after)) : after.link.connection = .opened := by
  obtain ⟨reply, s, answer, -, -, -, ends⟩ | ⟨fault, ends, -⟩ := m.ask_cases command kind
  · obtain ⟨-, rfl⟩ := Prod.mk.inj (asked.symm.trans ends)
    exact opened_of_answer answer
  · cases asked.symm.trans ends

section
variable {m : Monitor σ} (held : m.link.connection = .opened)
include held

theorem identify_uses :
    ∃ done, m.link.Uses m.identify.2.link (fatalText m.identify.1) done := by
  fun_cases identify m with
  | case1 =>
    fun_cases identifyGpser m with
    | case1 fault after refused => exact ask_uses held refused
    | case2 frame after asked => exact ask_uses held asked
  | case2 =>
    fun_cases identifySentry m with
    | case1 fault after refused => exact ask_uses held refused
    | case2 frame after asked spoken fault unresolved =>
      have soft : fault.isFatal = false := by
        unfold Sentry.resolve at unresolved
        split at unresolved
        · cases unresolved
        · cases unresolved
          rfl
      obtain ⟨done, uses⟩ := ask_uses held asked
      exact ⟨done, by simpa [fatalText, Fault.fatalText_of_soft soft] using uses⟩
    | case3 frame after asked => exact ask_uses held asked

theorem readExtended_uses :
    ∃ done, m.link.Uses m.readExtended.2.link (fatalText m.readExtended.1) done := by
  fun_cases readExtended m with
  | case1 frame after asked => exact ask_uses held asked
  | case2 detail after broken => exact ask_uses held broken
  | case3 fault after soft refused =>
    obtain ⟨done, uses⟩ := ask_uses held refused
    have unbroken := Fault.fatalText_of_soft (Fault.isFatal_eq_false soft)
    exact ⟨done, by simpa [fatalText, unbroken] using uses⟩

theorem readStatus_uses :
    ∃ done, m.link.Uses m.readStatus.2.link (fatalText m.readStatus.1) done := by
  fun_cases readStatus m with
  | case1 gpser fault after refused => exact ask_uses held refused
  | case2 gpser frame after asked =>
    obtain ⟨first, uses⟩ := ask_uses held asked
    obtain ⟨second, goes_on⟩ := readExtended_uses (opened_of_ask asked)
    exact ⟨first ++ second, uses.trans goes_on⟩
  | case3 sentry fault after refused => exact ask_uses held refused
  | case4 sentry frame after asked => exact ask_uses held asked

end

/-- A unit that is identified is left with its handle open. -/
theorem ensureIdentified_reaches (m : Monitor σ) :
    m.link.Reaches m.ensureIdentified.2.link m.ensureIdentified.1 ∧
      (m.ensureIdentified.1 = .ok () → m.ensureIdentified.2.link.connection = .opened) := by
  obtain ⟨fault, after, failed, refused⟩ | ⟨opening, link, opened, opens, held, -, before⟩ :=
    m.link.ensureOpen_cases
  · have ends : m.ensureIdentified = (.error fault, { m with link := after }) := by
      simp only [ensureIdentified, failed]
    rw [ends]
    exact ⟨.refused rfl refused, nofun⟩
  · fun_cases ensureIdentified m with
    | case1 fault link refused => cases opened.symm.trans refused
    | case2 _ other opened' reopened taken news ready trusted =>
      obtain ⟨-, rfl⟩ := Prod.mk.inj (opened.symm.trans opened')
      obtain ⟨-, rfl⟩ := Prod.mk.inj news
      have before : ready.link.bus.calls = opening.reverse ++ m.link.bus.calls := before
      exact ⟨.used opens before (.refl ready.link), fun _ => held⟩
    | case3 _ other opened' reopened taken news ready untrusted =>
      obtain ⟨-, rfl⟩ := Prod.mk.inj (opened.symm.trans opened')
      obtain ⟨-, rfl⟩ := Prod.mk.inj news
      have before : ready.link.bus.calls = opening.reverse ++ m.link.bus.calls := before
      have still : ready.link.connection = .opened := held
      obtain ⟨done, uses⟩ := identify_uses still
      refine ⟨.used opens before uses, fun identified => ?_⟩
      exact (ready.identify_probes.known identified fun _ => False).opened

/-- **All of a poll but its end.** -/
theorem refresh_reaches (m : Monitor σ) : m.link.Reaches m.refresh.2.link m.refresh.1 := by
  obtain ⟨reaches, opened⟩ := m.ensureIdentified_reaches
  fun_cases refresh m with
  | case1 fault after unidentified =>
    rw [unidentified] at reaches
    cases reaches with
    | refused failed refused =>
      cases failed
      exact .refused rfl refused
    | used opens before uses => exact .used opens before uses
  | case2 _ ready identified =>
    rw [identified] at reaches opened
    obtain ⟨later, goes_on⟩ := readStatus_uses (opened rfl)
    cases reaches with
    | refused failed => cases failed
    | used opens before uses => exact .used opens before (uses.trans goes_on)

/-- **Only transfers make a grave fault fatal.** A write or a read that meets one breaks off its
command and the poll with a fatal fault, which is not counted, and has the link give up. An open
that fails is passed on as it is and leaves the link as it was, so a poll counts it as a miss and
the next one tries again. Nothing else is fatal. -/
theorem gives_up_on_transfers_only :
    (∀ (link : Link σ) (command : Command),
      let got := link.execute command
      ∃ done : List Done, got.2.bus.calls = done.reverse ++ link.bus.calls ∧
        (∀ entry ∈ done, ∀ fault, Grave fault entry →
          got.1 = .error (.fatal fault.message) ∧ got.2.connection = .closed) ∧
        (∀ matcher fault, ⟨.opening matcher, .error fault⟩ ∈ done →
          got.1 = .error fault ∧ got.2.connection = link.connection) ∧
        ∀ detail, got.1 = .error (.fatal detail) →
          (∃ entry ∈ done, ∃ fault, Grave fault entry ∧ detail = fault.message) ∨
            ∃ matcher, ⟨.opening matcher, .error (.fatal detail)⟩ ∈ done) ∧
    ∀ m : Monitor σ,
      let got := m.poll
      ∃ done : List Done, got.2.link.bus.calls = done.reverse ++ m.link.bus.calls ∧
        (∀ entry ∈ done, ∀ fault, Grave fault entry →
          got.1 = .error (.fatal fault.message) ∧ got.2.link.connection = .closed ∧
            got.2.failures = m.failures ∧ got.2.notices = m.notices) ∧
        (∀ matcher fault, ⟨.opening matcher, .error fault⟩ ∈ done → fault.isFatal = false →
          got.1 = .ok false ∧ got.2.link.connection = m.link.connection ∧
            got.2.failures = m.failures.recordFailure.2) ∧
        ∀ fault, got.1 = .error fault →
          (∃ entry ∈ done, ∃ met, Grave met entry ∧ fault = .fatal met.message) ∨
            ∃ matcher, ⟨.opening matcher, .error fault⟩ ∈ done := by
  refine ⟨fun link command => (link.execute_reaches command).faults, fun m => ?_⟩
  intro got
  obtain ⟨done, calls, transfers, opens, fatal⟩ := m.refresh_reaches.faults
  obtain ⟨talks, account, -⟩ := m.refresh_learns
  have failures : m.refresh.2.failures = m.failures := account.failures
  have notices : m.refresh.2.notices = m.notices := account.notices
  obtain ⟨extended, fresh, ended⟩ | ⟨detail, broken, ended⟩ | ⟨fault, failed, soft, ended⟩ :=
    m.poll_cases
  · have ends : got = (.ok true, m.refresh.2.refreshed extended) := ended
    rw [ends]
    refine ⟨done, calls, ?_, ?_, nofun⟩
    · intro entry member fault grave
      cases fresh.symm.trans (transfers entry member fault grave).1
    · intro matcher fault member
      cases fresh.symm.trans (opens matcher fault member).1
  · have ends : got = (.error (.fatal detail), m.refresh.2) := ended
    rw [ends]
    refine ⟨done, calls, ?_, ?_, ?_⟩
    · intro entry member fault grave
      obtain ⟨same, closed⟩ := transfers entry member fault grave
      exact ⟨broken.symm.trans same, closed, failures, notices⟩
    · intro matcher fault member soft
      cases broken.symm.trans (opens matcher fault member).1
      cases soft
    · intro fault same
      cases same
      rcases fatal detail broken with ⟨entry, member, met, grave, rfl⟩ | opened
      · exact .inl ⟨entry, member, met, grave, rfl⟩
      · exact .inr opened
  · have ends : got = (.ok false, m.refresh.2.missed) := ended
    rw [ends, missed_link, missed_failures, failures]
    refine ⟨done, calls, ?_, ?_, nofun⟩
    · intro entry member met grave
      cases failed.symm.trans (transfers entry member met grave).1
      cases soft
    · intro matcher other member _
      exact ⟨rfl, (opens matcher other member).2, rfl⟩

/-- A device that is claimed when it should be opened is a missed poll. Claimed when it should be
read, it is the end. -/
theorem claimed_device_is_tried_again :
    let claimed : Fault := .usb .busy "claimed"
    let matcher : Matcher := ⟨0x04B4, 0x5500, none, none⟩
    let unopened : Monitor Bench :=
      ofLink { bus := { device := { openFailures := [claimed] } }, matcher } {}
    let unread : Monitor Bench :=
      ofLink { bus := { device := { reads := [.error claimed] } }, matcher } {}
    claimed.recovery = .fatal ∧
      unopened.poll.2.link.bus.calls = [⟨.opening matcher, .error claimed⟩] ∧
      unopened.poll.1 = .ok false ∧ unopened.poll.2.failures.count = 1 ∧
      unread.poll.1 = .error (.fatal claimed.message) ∧ unread.poll.2.failures.count = 0 := by
  intro claimed matcher unopened unread
  have only : unopened.poll.2.link.bus.calls = [⟨.opening matcher, .error claimed⟩] := rfl
  have last : unread.poll.2.link.bus.calls.head? =
      some ⟨.read Transport.inEndpoint Report.size 1000000, .error claimed⟩ := by
    with_unfolding_all rfl
  obtain ⟨-, polls⟩ := @gives_up_on_transfers_only Bench _
  obtain ⟨done, calls, -, opens, -⟩ := polls unopened
  obtain ⟨later, calls', transfers, -, -⟩ := polls unread
  have opened : ⟨.opening matcher, .error claimed⟩ ∈ done := by
    rw [← List.mem_reverse, ← List.append_nil done.reverse]
    exact calls ▸ only ▸ List.mem_singleton_self _
  have read : ⟨.read Transport.inEndpoint Report.size 1000000, .error claimed⟩ ∈ later := by
    rw [← List.mem_reverse, ← List.append_nil later.reverse]
    exact calls' ▸ List.mem_of_mem_head? last
  obtain ⟨missed, -, counted⟩ := opens matcher claimed opened rfl
  obtain ⟨broken, -, uncounted, -⟩ := transfers _ read claimed (.read _ _ _ (.busy _))
  exact ⟨rfl, only, missed, by rw [counted]; rfl, broken, by rw [uncounted]; rfl⟩

end UpsMonitor.Monitor
