import UpsMonitor.Proofs.FailureCounter
import UpsMonitor.Proofs.Monitor.Operation
import UpsMonitor.Usb.Bench

/-!
# Staleness

Whether the published data is stale is told by the history of polls alone. Main statements:

* `stale_iff_missed`: in every run the data is stale from the poll that makes the misses as many as
  the limit up to the next poll that brings fresh data, and that is announced once;
* `failed_poll_publishes_nothing`: a poll without fresh data leaves what is published as it was, but
  that it may become stale.
-/

namespace UpsMonitor

/-! ## Missed polls -/

section
variable {σ : Type} [Device σ]

/-- What a step tells about the data: whether a poll brought fresh data. A poll that ends at a fatal
fault tells nothing, and neither does anything else. -/
def Step.verdict (step : Step σ) : Option Bool :=
  match step.operation with
  | .poll => step.before.poll.1.toOption
  | .establish | .readStatusCodes | .instant _ | .shutdown => none

def Step.recount (step : Step σ) (missed : Nat) : Nat :=
  match step.verdict with
  | some true => 0
  | some false => missed + 1
  | none => missed

/-- How many polls brought nothing since the last that brought fresh data, or else since the start.
This does not refer to the counter of the monitor. -/
def missedPolls (steps : List (Step σ)) : Nat := steps.foldr Step.recount 0

end

/-! ## What tells whether the data holds -/

theorem Store.stale_applyAll {notices : List Notice}
    (plain : ∀ notice ∈ notices, notice.plain = true) (store : Store) :
    (store.applyAll notices).stale = store.stale := by
  induction notices generalizing store with
  | nil => rfl
  | cons notice rest ih =>
    obtain ⟨first, plain⟩ := List.forall_mem_cons.mp plain
    refine (ih plain (store.apply notice)).trans ?_
    cases notice with
    | info | status | command => rfl
    | stale | ok => cases first

theorem Notice.ne_of_plain {notice : Notice} (plain : notice.plain = true) :
    notice ≠ .stale ∧ notice ≠ .ok := by
  cases notice with
  | info | status | command => simp
  | stale | ok => cases plain

namespace Monitor

variable {σ : Type}

/-- How often the data was announced as stale since it last was announced to hold. -/
def announced (m : Monitor σ) : Nat := (m.notices.takeWhile (· ≠ .ok)).count .stale

/-- The standing of the data, told by the number of polls that were missed. -/
structure Tracked (limit missed : Nat) (m : Monitor σ) : Prop where
  bound : m.failures.limit.toNat = limit
  counted : m.failures.count.toNat = min missed limit
  stale : m.store.stale = decide (limit ≤ missed)
  announced : m.announced = if limit ≤ missed then 1 else 0

theorem count_of_plain {news : List Notice} (plain : ∀ notice ∈ news, notice.plain = true) :
    news.count .stale = 0 ∧ news.count .ok = 0 :=
  ⟨List.count_eq_zero.mpr fun member => (Notice.ne_of_plain (plain _ member)).1 rfl,
    List.count_eq_zero.mpr fun member => (Notice.ne_of_plain (plain _ member)).2 rfl⟩

theorem tracked_ofLink (link : Link σ) (settings : Settings) :
    Tracked (max 1 settings.countlost.toNat) 0 (ofLink link settings) where
  bound := FailureCounter.toNat_limit_ofLimit settings.countlost
  counted := by
    rw [Nat.zero_min]
    rfl
  stale := by
    rw [decide_eq_false (by omega)]
    rfl
  announced := by
    rw [if_neg (by omega)]
    rfl

section
variable {m after : Monitor σ} {news : List Notice} {limit misses : Nat}

theorem Published.stale (published : Published m after news) :
    after.store.stale = m.store.stale := by
  rw [published.store]
  exact Store.stale_applyAll (by simpa using published.plain) m.store

theorem Published.announced (published : Published m after news) :
    after.announced = m.announced := by
  have passed : ∀ notice ∈ news, decide (notice ≠ .ok) = true := fun notice member =>
    decide_eq_true (Notice.ne_of_plain (published.plain notice member)).2
  rw [Monitor.announced, published.notices, List.takeWhile_append_of_pos passed,
    List.count_append, (count_of_plain published.plain).1, Nat.zero_add, Monitor.announced]

theorem Tracked.published (tracked : Tracked limit misses m) (published : Published m after news) :
    Tracked limit misses after where
  bound := by rw [published.failures, tracked.bound]
  counted := by rw [published.failures, tracked.counted]
  stale := by rw [published.stale, tracked.stale]
  announced := by rw [published.announced, tracked.announced]

theorem Tracked.counts (tracked : Tracked limit misses m) : m.failures.Counts limit misses :=
  ⟨tracked.bound, tracked.counted⟩

/-- The next miss makes the data stale if it is the one that reaches the limit. -/
theorem Tracked.reaches (tracked : Tracked limit misses m) :
    m.failures.recordFailure.1 = .becameStale ↔ misses + 1 = limit :=
  tracked.counts.reaches

theorem Tracked.missed (tracked : Tracked limit misses m) :
    Tracked limit (misses + 1) m.missed where
  bound := m.missed_failures ▸ tracked.counts.failure.bound
  counted := m.missed_failures ▸ tracked.counts.failure.counted
  stale := by
    rw [m.missed_store, tracked.stale, decide_eq_decide.mpr tracked.reaches, ← Bool.decide_or]
    exact decide_eq_decide.mpr (by omega)
  announced := by
    have before := tracked.announced
    rw [Monitor.announced] at before
    rw [Monitor.announced, m.missed_notices]
    by_cases reached : misses + 1 = limit
    · rw [if_neg (by omega)] at before
      rw [if_pos (tracked.reaches.mpr reached), if_pos (by omega), List.singleton_append,
        List.takeWhile_cons_of_pos rfl, List.count_cons_self, before]
    · rw [if_neg (mt tracked.reaches.mp reached), List.nil_append, before]
      split <;> split <;> omega

theorem Tracked.refreshed (tracked : Tracked limit misses m) (positive : 0 < limit)
    (extended : Bool) : Tracked limit 0 (m.refreshed extended) where
  bound := tracked.bound
  counted := by
    rw [Nat.zero_min]
    rfl
  stale := by
    rw [decide_eq_false (by omega)]
    simp [Monitor.refreshed, post, Store.applyAll, Store.apply]
  announced := by
    rw [if_neg (by omega)]
    simp [Monitor.announced, Monitor.refreshed, post]

end

variable [Device σ]

/-- **What a step does to the standing of the data.** -/
theorem step_cases (m : Monitor σ) (operation : Operation) :
    let step : Step σ := ⟨m, operation⟩
    (step.verdict = some true ∧ ∃ fresh news extended, Published m fresh news ∧
      step.after = fresh.refreshed extended) ∨
    (step.verdict = some false ∧ ∃ failed news, Published m failed news ∧
      step.after = failed.missed) ∨
    (step.verdict = none ∧ ∃ news, Published m step.after news) := by
  intro step
  by_cases polls : operation = .poll
  · subst polls
    obtain ⟨talks, account, -⟩ := m.refresh_learns
    have published := account.toPublished
    have polled : step.verdict = m.poll.1.toOption := rfl
    have after : step.after = m.poll.2 := rfl
    obtain ⟨extended, -, ended⟩ | ⟨detail, -, ended⟩ | ⟨fault, -, -, ended⟩ := m.poll_cases
    all_goals rw [ended] at polled after
    · exact .inl ⟨polled, _, _, extended, published, after⟩
    · exact .inr (.inr ⟨polled, _, after ▸ published⟩)
    · exact .inr (.inl ⟨polled, _, _, published, after⟩)
  · obtain ⟨talks, news, account⟩ := perform_account polls m
    refine .inr (.inr ⟨?_, news, account.toPublished⟩)
    cases operation with
    | poll => exact absurd rfl polls
    | establish | readStatusCodes | instant | shutdown => rfl

theorem Tracked.step {limit misses : Nat} {m : Monitor σ} (tracked : Tracked limit misses m)
    (positive : 0 < limit) (operation : Operation) :
    let step : Step σ := ⟨m, operation⟩
    Tracked limit (step.recount misses) step.after := by
  intro step
  unfold Step.recount
  obtain ⟨verdict, fresh, news, extended, published, ends⟩ |
    ⟨verdict, failed, news, published, ends⟩ | ⟨verdict, news, published⟩ :=
    m.step_cases operation
  · rw [verdict, ends]
    exact (tracked.published published).refreshed positive extended
  · rw [verdict, ends]
    exact (tracked.published published).missed
  · rw [verdict]
    exact tracked.published published

theorem run_tracked {link : Link σ} {settings : Settings} {steps : List (Step σ)} {m : Monitor σ}
    (run : Run (ofLink link settings) steps m) :
    Tracked (max 1 settings.countlost.toNat) (missedPolls steps) m := by
  induction run with
  | start => exact tracked_ofLink link settings
  | step run operation ih => exact ih.step (by omega) operation
  | meddled run device ih => exact ⟨ih.bound, ih.counted, ih.stale, ih.announced⟩

/-- What a step announces about the data, given how many polls were missed before it. -/
structure Announces (limit misses : Nat) (step : Step σ) (news : List Notice) : Prop where
  notices : step.after.notices = news ++ step.before.notices
  stale : news.count .stale = if step.verdict = some false ∧ misses + 1 = limit then 1 else 0
  ok : news.count .ok = if step.verdict = some true then 1 else 0

theorem Tracked.announces {limit misses : Nat} {m : Monitor σ} (tracked : Tracked limit misses m)
    (operation : Operation) : ∃ news, Announces limit misses ⟨m, operation⟩ news := by
  obtain ⟨verdict, fresh, news, extended, published, ends⟩ |
    ⟨verdict, failed, news, published, ends⟩ | ⟨verdict, news, published⟩ :=
    m.step_cases operation
  · let status := Publishing.status fresh.dialect.layout extended fresh.snapshot
    have plain : ∀ notice ∈ status, notice.plain = true := Publishing.plain_status _ _ _
    obtain ⟨stale, ok⟩ := count_of_plain published.plain
    obtain ⟨stale', ok'⟩ := count_of_plain plain
    refine ⟨.ok :: (status.reverse ++ news), ?_, ?_, ?_⟩
    · simp [status, ends, Monitor.refreshed, post, published.notices]
    · simp [verdict, stale, stale']
    · simp [verdict, ok, ok']
  · obtain ⟨stale, ok⟩ := count_of_plain published.plain
    have reaches := (tracked.published published).reaches
    refine ⟨(if misses + 1 = limit then [.stale] else []) ++ news, ?_, ?_, ?_⟩
    · simp [ends, failed.missed_notices, published.notices, reaches]
    · by_cases reached : misses + 1 = limit <;> simp [verdict, reached, stale]
    · by_cases reached : misses + 1 = limit <;> simp [verdict, reached, ok]
  · obtain ⟨stale, ok⟩ := count_of_plain published.plain
    exact ⟨news, published.notices, by simp [verdict, stale], by simp [verdict, ok]⟩

/-- **The data is stale when enough polls in a row were missed.** The limit that is configured
counts as one if it is zero. The miss that reaches it is announced, and no other; polls that end at
a fatal fault and everything else that is done leave the count and the standing of the data alone. -/
theorem stale_iff_missed {link : Link σ} {settings : Settings} {steps : List (Step σ)}
    {m : Monitor σ} (run : Run (ofLink link settings) steps m) :
    let limit := max 1 settings.countlost.toNat
    (m.store.stale = true ↔ limit ≤ missedPolls steps) ∧
    (m.failures.isStale = true ↔ limit ≤ missedPolls steps) ∧
    m.announced = (if limit ≤ missedPolls steps then 1 else 0) ∧
    ∀ operation, let step : Step σ := ⟨m, operation⟩
      (∃ news, Announces limit (missedPolls steps) step news) ∧
      (step.verdict = none →
        step.after.failures = m.failures ∧ step.after.store.stale = m.store.stale) := by
  intro limit
  have tracked := run_tracked run
  refine ⟨?_, ?_, tracked.announced, fun operation => ⟨tracked.announces operation, ?_⟩⟩
  · rw [tracked.stale, decide_eq_true_iff]
  · rw [FailureCounter.isStale_iff, tracked.bound, tracked.counted]
    omega
  · intro silent
    obtain ⟨verdict, -⟩ | ⟨verdict, -⟩ | ⟨-, news, published⟩ := m.step_cases operation
    · cases verdict.symm.trans silent
    · cases verdict.symm.trans silent
    · exact ⟨published.failures, published.stale⟩

/-- A shutdown between two misses, with no unit plugged in. -/
theorem stale_at_second_miss :
    let link : Link Bench :=
      { bus := { device := { plugged := false } }, matcher := ⟨0x04B4, 0x5500, none, none⟩ }
    let first := ofLink link { countlost := 2 }
    let missed := Operation.poll.perform first
    let refused := Operation.shutdown.perform missed
    let last := Operation.poll.perform refused
    refused.store.stale = false ∧ last.store.stale = true ∧ last.announced = 1 := by
  intro link first missed refused last
  have early : missedPolls [⟨missed, .shutdown⟩, ⟨first, .poll⟩] = 1 := by decide
  have late : missedPolls [⟨refused, .poll⟩, ⟨missed, .shutdown⟩, ⟨first, .poll⟩] = 2 := by decide
  have run : Run first [⟨missed, .shutdown⟩, ⟨first, .poll⟩] refused := .step (.step .start _) _
  have before := stale_iff_missed run
  have behind := stale_iff_missed (run.step .poll)
  rw [early] at before
  rw [late] at behind
  exact ⟨by simpa using mt before.1.mp (by decide), behind.1.mpr (by decide), behind.2.2.1⟩

/-- **A poll without fresh data publishes nothing,** wherever it breaks off. If it fails, the data
may become stale, by the failure that reaches the limit; at a fatal fault not even that. -/
theorem failed_poll_publishes_nothing (m : Monitor σ) :
    let after := m.poll.2
    (m.poll.1 = .ok false →
      after.store.values = m.store.values ∧ after.store.status = m.store.status ∧
      after.store.commands = m.store.commands ∧
      (m.store.stale = true → after.store.stale = true) ∧
      (m.store.stale = false → (after.store.stale = true ↔
        m.failures.count < m.failures.limit ∧ after.failures.count = m.failures.limit))) ∧
    ∀ fault, m.poll.1 = .error fault →
      (∃ detail, fault = .fatal detail) ∧ after.store = m.store ∧ after.failures = m.failures := by
  intro after
  obtain ⟨talks, account, -⟩ := m.refresh_learns
  have store : m.refresh.2.store = m.store := account.store
  have failures : m.refresh.2.failures = m.failures := account.failures
  obtain ⟨extended, -, ended⟩ | ⟨detail, -, ended⟩ | ⟨fault, -, -, ended⟩ := m.poll_cases
  · rw [ended]
    exact ⟨nofun, nofun⟩
  · have ends : after = m.refresh.2 := (congrArg Prod.snd ended :)
    rw [ended, ends]
    refine ⟨nofun, fun fault broke => ⟨⟨detail, (Except.error.inj broke).symm⟩, store, failures⟩⟩
  · have ends : after = m.refresh.2.missed := (congrArg Prod.snd ended :)
    rw [ended, ends]
    rw [missed_store, missed_failures, store, failures]
    refine ⟨fun _ => ⟨rfl, rfl, rfl, ?_, ?_⟩, nofun⟩
    · intro stale
      simp [stale]
    · intro fresh
      simp only [fresh, Bool.false_or, decide_eq_true_iff]
      exact m.failures.becameStale_iff_reached

end Monitor

end UpsMonitor
