import UpsMonitor.Proofs.Monitor.Account

/-!
# Accounts of whole operations

Main statements:

* `establish_account`, `perform_account`: every operation but a poll has an account;
* `commands_only`: instant commands and the shutdown change nothing but the link;
* `poll_cases`: a poll ends in one of three ways, and only the first publishes data.
-/

namespace UpsMonitor

theorem Fault.isFatal_eq_false {fault : Fault} (soft : ∀ detail, fault = .fatal detail → False) :
    fault.isFatal = false := by
  cases fault with
  | fatal detail => exact (soft detail rfl).elim
  | usb | timeout | nak | badChecksum | insufficient | protocol | deviceNotFound => rfl

/-! ## What is published is plain -/

namespace Publishing

theorem plain_perPhase (stem ending : String) (values : PerPhase String) :
    ∀ notice ∈ perPhase stem ending values, notice.plain = true := by
  simp [perPhase, Notice.plain]

theorem plain_identity (layout : PhaseLayout) (delays : Delays) (s : Snapshot) :
    ∀ notice ∈ identity layout delays s, notice.plain = true := by
  simp only [identity, List.forall_mem_append]
  refine ⟨⟨?_, ?_⟩, by simp [Notice.plain]⟩
  · split <;> simp [Notice.plain]
  · split <;> simp [Notice.plain]

theorem plain_nominal (s : Snapshot) : ∀ notice ∈ nominal s, notice.plain = true := by
  simp [nominal, Notice.plain]

theorem plain_commands (family : Family) : ∀ notice ∈ commands family, notice.plain = true := by
  intro notice member
  obtain ⟨command, -, rfl⟩ := List.mem_map.mp member
  rfl

theorem plain_status (layout : PhaseLayout) (extended : Bool) (s : Snapshot) :
    ∀ notice ∈ status layout extended s, notice.plain = true := by
  simp only [status, common, input, output, powers, List.forall_mem_append]
  refine ⟨⟨⟨⟨⟨⟨?_, ?_⟩, ?_⟩, ?_⟩, ?_⟩, ?_⟩, ?_⟩
  · simp [Notice.plain]
  · split <;> simp [Notice.plain]
  · simp [Notice.plain]
  · split
    · simp [Notice.plain]
    · exact List.forall_mem_append.mpr ⟨plain_perPhase _ _ _, plain_perPhase _ _ _⟩
  · split
    · simp [Notice.plain]
    · simp only [List.forall_mem_append]
      exact ⟨⟨plain_perPhase _ _ _, plain_perPhase _ _ _⟩, by simp [Notice.plain]⟩
  · simp [Notice.plain]
  · split
    · simp only [List.forall_mem_append]
      exact ⟨⟨plain_perPhase _ _ _, plain_perPhase _ _ _⟩, plain_perPhase _ _ _⟩
    · simp

end Publishing

namespace Monitor

variable {σ : Type}

/-- The monitor behind a poll that failed. -/
def missed (m : Monitor σ) : Monitor σ :=
  let counted := { m with failures := m.failures.recordFailure.2 }
  if m.failures.recordFailure.1 = .becameStale then counted.post [.stale] else counted

@[simp] theorem missed_link (m : Monitor σ) : m.missed.link = m.link := by
  unfold missed
  split <;> rfl

@[simp] theorem missed_talks (m : Monitor σ) : m.missed.talks = m.talks := by
  unfold missed
  split <;> rfl

@[simp] theorem missed_identified (m : Monitor σ) : m.missed.identified = m.identified := by
  unfold missed
  split <;> rfl

@[simp] theorem missed_snapshot (m : Monitor σ) : m.missed.snapshot = m.snapshot := by
  unfold missed
  split <;> rfl

@[simp] theorem missed_dialect (m : Monitor σ) : m.missed.dialect = m.dialect := by
  unfold missed
  split <;> rfl

@[simp] theorem missed_failures (m : Monitor σ) :
    m.missed.failures = m.failures.recordFailure.2 := by
  unfold missed
  split <;> rfl

/-- Only the miss that reaches the limit is announced. -/
theorem missed_notices (m : Monitor σ) :
    m.missed.notices =
      (if m.failures.recordFailure.1 = .becameStale then [.stale] else []) ++ m.notices := by
  unfold missed
  split <;> rfl

theorem missed_store (m : Monitor σ) :
    m.missed.store =
      { m.store with
        stale := m.store.stale || decide (m.failures.recordFailure.1 = .becameStale) } := by
  unfold missed
  split
  · next reached => simp [reached, post, Store.applyAll, Store.apply]
  · next unreached => simp [unreached]

/-- The monitor behind a poll that brought fresh data. -/
def refreshed (m : Monitor σ) (extended : Bool) : Monitor σ :=
  let counted := { m with failures := m.failures.recordSuccess.2 }
  counted.post (Publishing.status m.dialect.layout extended m.snapshot ++ [.ok])

variable [Device σ]

/-! ## Establishing -/

theorem openFirst_account (m : Monitor σ) : Account m m.openFirst.2 [] [] := by
  fun_cases openFirst m with
  | case1 | case2 => exact .of_link m _ m.identified

theorem readNominal_learns (m : Monitor σ) : m.Learns m.readNominal := by
  fun_cases readNominal m with
  | case1 => exact ask_learns (.nominal _) rfl
  | case2 => exact ask_learns (.telemetry _) rfl

theorem publishNominal_account (m : Monitor σ) :
    ∃ talks news, Account m m.publishNominal.2 talks news := by
  obtain ⟨talks, account, clean⟩ := m.readNominal_learns
  fun_cases publishNominal m with
  | case1 frame after read =>
    rw [read] at account clean
    exact ⟨talks, _, account.posted (clean frame rfl) (Publishing.plain_nominal after.snapshot)⟩
  | case2 _ after read | case3 _ after _ read =>
    rw [read] at account
    exact ⟨talks, [], account⟩

theorem readStatusCodes_account (m : Monitor σ) :
    ∃ talks, Account m m.readStatusCodes.2 talks [] := by
  fun_cases readStatusCodes m with
  | case1 => exact ⟨[], .of_link m m.link m.identified⟩
  | case2 _ _ after read | case3 _ after read | case4 _ _ after _ read =>
    obtain ⟨talks, account, -⟩ := ask_learns (.statusCodes _) read
    exact ⟨talks, account⟩

theorem tryStatusCodes_account (m : Monitor σ) :
    ∃ talks, Account m m.tryStatusCodes.2 talks [] := by
  obtain ⟨talks, account⟩ := m.readStatusCodes_account
  fun_cases tryStatusCodes m with
  | case1 _ after read | case2 _ after _ read =>
    rw [read] at account
    exact ⟨talks, account⟩

/-- A unit that was identified gave a clean reply, and is made known. -/
theorem identified_account {m ready known : Monitor σ} (opened : m.openFirst = (.ok (), ready))
    (found : ready.detect = (.ok (), known)) :
    let named :=
      known.post (Publishing.identity known.dialect.layout known.settings.delays known.snapshot)
    ∃ talks news, Account m named talks news ∧ ∃ talk ∈ talks, talk.Clean := by
  have opening := m.openFirst_account
  rw [opened] at opening
  obtain ⟨talks, account, clean⟩ := ready.detect_learns.after opening
  rw [found] at account clean
  have clean := clean () rfl
  exact ⟨talks, _, account.posted clean (Publishing.plain_identity _ _ _), clean⟩

theorem establish_account (m : Monitor σ) :
    ∃ talks news, Account m m.establish.2 talks news := by
  fun_cases establish m with
  | case1 fault ready refused =>
    have opening := m.openFirst_account
    rw [refused] at opening
    exact ⟨[], [], opening⟩
  | case2 _ ready opened fault after refused =>
    have opening := m.openFirst_account
    rw [opened] at opening
    obtain ⟨talks, account, -⟩ := ready.detect_learns.after opening
    rw [refused] at account
    exact ⟨talks, [], account⟩
  | case3 _ ready opened _ known found named fault after refused =>
    obtain ⟨talks, news, account, -⟩ := identified_account opened found
    obtain ⟨later, newer, behind⟩ := named.publishNominal_account
    rw [refused] at behind
    exact ⟨_, _, account.trans behind⟩
  | case4 _ ready opened _ known found named _ rated read fault after refused =>
    obtain ⟨talks, news, account, -⟩ := identified_account opened found
    obtain ⟨later, newer, behind⟩ := named.publishNominal_account
    rw [read] at behind
    obtain ⟨last, tried⟩ := rated.tryStatusCodes_account
    rw [refused] at tried
    exact ⟨_, _, (account.trans behind).trans tried⟩
  | case5 _ ready opened _ known found named _ rated read _ after tried =>
    obtain ⟨talks, news, account, talk, member, clean⟩ := identified_account opened found
    obtain ⟨later, newer, behind⟩ := named.publishNominal_account
    rw [read] at behind
    obtain ⟨last, codes⟩ := rated.tryStatusCodes_account
    rw [tried] at codes
    have whole := (account.trans behind).trans codes
    have heard : ∃ talk ∈ last ++ (later ++ talks), talk.Clean :=
      ⟨talk, List.mem_append_right _ (List.mem_append_right _ member), clean⟩
    exact ⟨_, _, whole.posted heard (Publishing.plain_commands _)⟩

/-! ## Commands -/

/-- Commands that are carried out one after the other, and nothing else. -/
inductive Commanded (m : Monitor σ) : Monitor σ → Prop
  | start : Commanded m m
  | next {after : Monitor σ} (h : Commanded m after) (command : Command) :
      Commanded m (after.carryOut command).2

theorem Commanded.trans {a b c : Monitor σ} (h : Commanded a b) (k : Commanded b c) :
    Commanded a c := by
  induction k with
  | start => exact h
  | next _ command ih => exact ih.next command

/-- Only the link and the record of talks differ. -/
theorem Commanded.kept {m after : Monitor σ} (h : Commanded m after) :
    ∃ talks link, after = { m with link, talks := talks ++ m.talks } := by
  induction h with
  | start => exact ⟨[], m.link, rfl⟩
  | next h command ih =>
    obtain ⟨talks, link, rfl⟩ := ih
    exact ⟨_ :: talks, _, rfl⟩

theorem Commanded.account {m after : Monitor σ} (h : Commanded m after) :
    ∃ talks, Account m after talks [] := by
  induction h with
  | start => exact ⟨[], .of_link m m.link m.identified⟩
  | @next before h command ih =>
    obtain ⟨talks, account⟩ := ih
    exact ⟨_, account.trans (.of_talk before (before.talk command))⟩

theorem sendFrame_commanded (m : Monitor σ) (command : Command) :
    Commanded m (m.sendFrame command).2 := by
  have sent : (m.sendFrame command).2 = (m.carryOut command).2 := by
    fun_cases sendFrame m command with
    | case1 _ _ said | case2 _ _ said | case3 _ _ said | case4 _ _ _ _ said => rw [said]
  rw [sent]
  exact .next .start command

theorem sendFrames_commanded (commands : List Command) (m : Monitor σ) :
    Commanded m (sendFrames commands m).2 := by
  fun_induction sendFrames commands m with
  | case1 m => exact .start
  | case2 command rest m after sent ih =>
    have first := m.sendFrame_commanded command
    rw [sent] at first
    exact first.trans ih
  | case3 command rest m outcome after _ sent =>
    have first := m.sendFrame_commanded command
    rwa [sent] at first

theorem run_commanded (m : Monitor σ) (command : InstantCommand) :
    Commanded m (m.run command).2 := by
  fun_cases run m command with
  | case1 => exact sendFrames_commanded _ m
  | case2 => exact .start

theorem instant_commanded (m : Monitor σ) (name : String) :
    Commanded m (m.instant name).2 := by
  fun_cases instant m name with
  | case1 command => exact m.run_commanded command
  | case2 => exact .start

theorem runAll_commanded (commands : List InstantCommand) (m : Monitor σ) :
    Commanded m (runAll commands m).2 := by
  fun_induction runAll commands m with
  | case1 m => exact .start
  | case2 command rest m after ran ih =>
    have first := m.run_commanded command
    rw [ran] at first
    exact first.trans ih
  | case3 command rest m _ after _ ran | case4 command rest m _ after ran =>
    have first := m.run_commanded command
    rwa [ran] at first

theorem shutdownWithin_commanded (attempts : Nat) (m : Monitor σ) :
    Commanded m (shutdownWithin attempts m).2 := by
  fun_induction shutdownWithin attempts m with
  | case1 m => exact .start
  | case2 attempts m after ran | case4 attempts m _ after ran =>
    have first := runAll_commanded shutdownSequence m
    rwa [ran] at first
  | case3 attempts m after ran ih =>
    have first := runAll_commanded shutdownSequence m
    rw [ran] at first
    exact first.trans ih

/-- **What a command leaves alone.** -/
theorem commands_only {operation : Operation} (controls : operation.controls = true)
    (m : Monitor σ) : Commanded m (operation.perform m) := by
  cases operation with
  | establish | poll | readStatusCodes => cases controls
  | instant name => exact m.instant_commanded name
  | shutdown => exact shutdownWithin_commanded _ m

/-- **Every operation but a poll.** -/
theorem perform_account {operation : Operation} (other : operation ≠ .poll) (m : Monitor σ) :
    ∃ talks news, Account m (operation.perform m) talks news := by
  cases operation with
  | poll => exact absurd rfl other
  | establish => exact m.establish_account
  | readStatusCodes =>
    obtain ⟨talks, account⟩ := m.readStatusCodes_account
    exact ⟨talks, [], account⟩
  | instant name =>
    obtain ⟨talks, account⟩ := (m.instant_commanded name).account
    exact ⟨talks, [], account⟩
  | shutdown =>
    obtain ⟨talks, account⟩ := (shutdownWithin_commanded m.settings.shutdownRetries m).account
    exact ⟨talks, [], account⟩

/-! ## Polling -/

/-- **What a poll comes to.** -/
theorem poll_cases (m : Monitor σ) :
    let fresh := m.refresh
    (∃ extended, fresh.1 = .ok extended ∧ m.poll = (.ok true, fresh.2.refreshed extended)) ∨
    (∃ detail, fresh.1 = .error (.fatal detail) ∧
      m.poll = (.error (.fatal detail), fresh.2)) ∨
    ∃ fault, fresh.1 = .error fault ∧ fault.isFatal = false ∧
      m.poll = (.ok false, fresh.2.missed) := by
  dsimp only
  fun_cases poll m with
  | case1 extended after fresh counted =>
    rw [fresh]
    exact .inl ⟨extended, rfl, rfl⟩
  | case2 detail after failed =>
    rw [failed]
    exact .inr (.inl ⟨detail, rfl, rfl⟩)
  | case3 fault after soft failed event failures counted recorded =>
    have missed : after.missed =
        if event = .becameStale then recorded.post [.stale] else recorded := by
      simp only [missed, counted, recorded]
    rw [failed]
    exact .inr (.inr ⟨fault, rfl, Fault.isFatal_eq_false soft, by rw [missed]⟩)

end Monitor

end UpsMonitor
