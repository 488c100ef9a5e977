import Mathlib.Data.List.Chain
import Mathlib.Data.List.Induction
import UpsMonitor.FailureCounter

/-!
# Counting failures

The counter in plain numbers: what one more failure makes of the count, and what a run of polls
leaves. Main statements:

* `becameStale_iff`: the data becomes stale on the failure that reaches the limit;
* `Counts.turns_alternate`: in a run of polls it becomes stale and recovers by turns;
* `run_counts`: so the counter tells the failures since the last success, up to the limit.
-/

namespace UpsMonitor

namespace FailureCounter

/-! ## One poll -/

theorem toNat_limit_ofLimit (limit : UInt32) : (ofLimit limit).limit.toNat = max 1 limit.toNat := by
  have one : (1 : UInt32).toNat = 1 := rfl
  show (if limit ≤ 1 then 1 else limit).toNat = _
  split
  · next low =>
    rw [UInt32.le_iff_toNat_le] at low
    omega
  · next high =>
    rw [UInt32.le_iff_toNat_le] at high
    omega

/-- A limit that is not zero is taken as it is. -/
theorem ofLimit_of_pos {limit : UInt32} (positive : 1 ≤ limit.toNat) :
    ofLimit limit = { limit } := by
  have same : (ofLimit limit).limit = limit := by
    apply UInt32.toNat_inj.mp
    rw [toNat_limit_ofLimit]
    exact Nat.max_eq_right positive
  exact congrArg (FailureCounter.mk · 0) same

theorem isStale_iff (counter : FailureCounter) :
    counter.isStale = true ↔ counter.limit.toNat ≤ counter.count.toNat := by
  rw [isStale, decide_eq_true_iff, UInt32.le_iff_toNat_le]

theorem limit_recordFailure (counter : FailureCounter) :
    counter.recordFailure.2.limit = counter.limit := by
  unfold recordFailure
  split
  · rfl
  · rfl

/-- Below its limit the counter cannot overflow. -/
theorem toNat_count_succ {counter : FailureCounter} (below : ¬counter.limit ≤ counter.count) :
    (counter.count + 1).toNat = counter.count.toNat + 1 := by
  have bound := counter.limit.toNat_lt
  rw [UInt32.le_iff_toNat_le] at below
  have one : (1 : UInt32).toNat = 1 := rfl
  rw [UInt32.toNat_add, one]
  omega

/-- One more failure is counted up to the limit. -/
theorem toNat_count_recordFailure {counter : FailureCounter}
    (within : counter.count.toNat ≤ counter.limit.toNat) :
    counter.recordFailure.2.count.toNat =
      min (counter.count.toNat + 1) counter.limit.toNat := by
  unfold recordFailure
  split
  · next reached =>
    rw [UInt32.le_iff_toNat_le] at reached
    simp only
    omega
  · next below =>
    have succ := toNat_count_succ below
    rw [UInt32.le_iff_toNat_le] at below
    simp only [succ]
    omega

/-- **The data becomes stale on the failure that reaches the limit,** and on no other. -/
theorem becameStale_iff (counter : FailureCounter) :
    counter.recordFailure.1 = .becameStale ↔
      counter.count.toNat + 1 = counter.limit.toNat := by
  unfold recordFailure
  split
  · next reached =>
    rw [UInt32.le_iff_toNat_le] at reached
    simp only [reduceCtorEq, false_iff]
    omega
  · next below =>
    have succ := toNat_count_succ below
    simp only [← succ]
    rw [UInt32.toNat_inj]
    split
    · next same => simp [same]
    · next other => simp [other]

/-- Told by the counts before and after. -/
theorem becameStale_iff_reached (counter : FailureCounter) :
    counter.recordFailure.1 = .becameStale ↔
      counter.count < counter.limit ∧ counter.recordFailure.2.count = counter.limit := by
  unfold recordFailure
  split
  · next reached =>
    have full : ¬counter.count < counter.limit := UInt32.not_lt.mpr reached
    simp [full]
  · next below =>
    have room : counter.count < counter.limit := UInt32.not_le.mp below
    simp only [room, true_and]
    split
    · next same => simp [same]
    · next other => simp [other]

end FailureCounter

/-! ## Runs of polls -/

/-- How a poll ended. -/
inductive PollOutcome
  | failure
  | success
  deriving DecidableEq

/-- The events that turn the standing of the data, to stale or back. -/
def PollEvent.isTurn : PollEvent → Bool
  | becameStale | recovered => true
  | ok | failed _ => false

/-- How many polls have failed since the last success, or else since the start. -/
def failuresInRow (outcomes : List PollOutcome) : Nat :=
  (outcomes.reverse.takeWhile (· = .failure)).length

theorem failuresInRow_failure (outcomes : List PollOutcome) :
    failuresInRow (outcomes ++ [.failure]) = failuresInRow outcomes + 1 := by
  simp [failuresInRow]

theorem failuresInRow_success (outcomes : List PollOutcome) :
    failuresInRow (outcomes ++ [.success]) = 0 := by
  simp [failuresInRow]

namespace FailureCounter

def record (counter : FailureCounter) : PollOutcome → PollEvent × FailureCounter
  | .failure => counter.recordFailure
  | .success => counter.recordSuccess

/-- The counter behind a run of polls. -/
def recordAll (counter : FailureCounter) (outcomes : List PollOutcome) : FailureCounter :=
  outcomes.foldl (fun counter outcome => (counter.record outcome).2) counter

/-- What is reported of each poll of a run. -/
def events (counter : FailureCounter) : List PollOutcome → List PollEvent
  | [] => []
  | outcome :: rest => (counter.record outcome).1 :: events (counter.record outcome).2 rest

/-- The turns among them. -/
def turns (counter : FailureCounter) (outcomes : List PollOutcome) : List PollEvent :=
  (counter.events outcomes).filter (·.isTurn)

theorem recordAll_snoc (counter : FailureCounter) (outcomes : List PollOutcome)
    (last : PollOutcome) :
    counter.recordAll (outcomes ++ [last]) = ((counter.recordAll outcomes).record last).2 := by
  simp [recordAll]

theorem events_snoc (counter : FailureCounter) (outcomes : List PollOutcome)
    (last : PollOutcome) :
    counter.events (outcomes ++ [last]) =
      counter.events outcomes ++ [((counter.recordAll outcomes).record last).1] := by
  induction outcomes generalizing counter with
  | nil => rfl
  | cons first rest ih => exact congrArg (_ :: ·) (ih (counter.record first).2)

theorem turns_cons (counter : FailureCounter) (first : PollOutcome) (rest : List PollOutcome) :
    counter.turns (first :: rest) =
      if (counter.record first).1.isTurn then
        (counter.record first).1 :: (counter.record first).2.turns rest
      else (counter.record first).2.turns rest :=
  List.filter_cons

/-- The counter of a limit, told by the number of failures in a row. -/
structure Counts (limit misses : Nat) (counter : FailureCounter) : Prop where
  bound : counter.limit.toNat = limit
  counted : counter.count.toNat = min misses limit

theorem counts_ofLimit (limit : UInt32) : Counts (max 1 limit.toNat) 0 (ofLimit limit) where
  bound := toNat_limit_ofLimit limit
  counted := (Nat.zero_min _).symm

/-- The turn that comes next. -/
def due (counter : FailureCounter) : PollEvent :=
  if counter.isStale then .recovered else .becameStale

/-- A failure that does not reach the limit is reported with the count behind it. -/
theorem recordFailure_cases (counter : FailureCounter) :
    counter.recordFailure.1 = .becameStale ∨
      counter.recordFailure.1 = .failed counter.recordFailure.2.count := by
  unfold recordFailure
  split
  · exact .inr rfl
  · dsimp only
    split
    · exact .inl rfl
    · exact .inr rfl

namespace Counts

variable {limit misses : Nat} {counter : FailureCounter}

theorem isStale_iff (counts : Counts limit misses counter) :
    counter.isStale = true ↔ limit ≤ misses := by
  rw [FailureCounter.isStale_iff, counts.bound, counts.counted]
  omega

/-- The failure that comes next makes the data stale if it is the one that reaches the limit. -/
theorem reaches (counts : Counts limit misses counter) :
    counter.recordFailure.1 = .becameStale ↔ misses + 1 = limit := by
  rw [becameStale_iff, counts.bound, counts.counted]
  omega

theorem failure (counts : Counts limit misses counter) :
    Counts limit (misses + 1) counter.recordFailure.2 where
  bound := by rw [limit_recordFailure, counts.bound]
  counted := by
    have within : counter.count.toNat ≤ counter.limit.toNat := by
      rw [counts.bound, counts.counted]
      exact Nat.min_le_right ..
    rw [toNat_count_recordFailure within, counts.bound, counts.counted]
    omega

theorem success (counts : Counts limit misses counter) :
    Counts limit 0 counter.recordSuccess.2 where
  bound := counts.bound
  counted := (Nat.zero_min limit).symm

theorem failure_event (counts : Counts limit misses counter) :
    counter.recordFailure.1 =
      if misses + 1 = limit then .becameStale else .failed counter.recordFailure.2.count := by
  split
  · next reached => exact counts.reaches.mpr reached
  · next other => exact counter.recordFailure_cases.resolve_left (mt counts.reaches.mp other)

theorem success_event (counts : Counts limit misses counter) :
    counter.recordSuccess.1 = if limit ≤ misses then .recovered else .ok := by
  simp only [recordSuccess, counts.isStale_iff]

/-- One more poll turns the standing of the data, which is reported as the turn that was due, or
leaves it as it was. -/
theorem turn (counts : Counts limit misses counter) (positive : 0 < limit)
    (outcome : PollOutcome) :
    let step := counter.record outcome
    (step.1 = counter.due ∧ step.2.isStale = !counter.isStale) ∨
      (step.1.isTurn = false ∧ step.2.isStale = counter.isStale) := by
  have before := counts.isStale_iff
  cases outcome with
  | failure =>
    have behind := counts.failure.isStale_iff
    by_cases reached : misses + 1 = limit
    · have fresh : counter.isStale = false := by
        rw [Bool.eq_false_iff, Ne, before]
        omega
      refine .inl ⟨?_, ?_⟩
      · rw [due, fresh]
        exact counts.reaches.mpr reached
      · rw [fresh]
        exact behind.mpr (by omega)
    · refine .inr ⟨?_, ?_⟩
      · rw [record, counts.failure_event, if_neg reached]
        rfl
      · rw [record, Bool.eq_iff_iff, behind, before]
        omega
  | success =>
    have fresh : counter.recordSuccess.2.isStale = false := by
      rw [Bool.eq_false_iff, Ne, counts.success.isStale_iff]
      omega
    cases stale : counter.isStale with
    | true => exact .inl ⟨by simp [record, recordSuccess, due, stale], fresh⟩
    | false => exact .inr ⟨by simp [record, recordSuccess, stale, PollEvent.isTurn], fresh⟩

end Counts

/-- Behind a run the counter tells the failures since the last success in it. -/
theorem counts_recordAll (limit : UInt32) (outcomes : List PollOutcome) :
    Counts (max 1 limit.toNat) (failuresInRow outcomes) ((ofLimit limit).recordAll outcomes) := by
  induction outcomes using List.reverseRecOn with
  | nil => exact counts_ofLimit limit
  | append_singleton earlier last ih =>
    rw [recordAll_snoc]
    cases last with
    | failure => exact failuresInRow_failure earlier ▸ ih.failure
    | success => exact failuresInRow_success earlier ▸ ih.success

theorem isTurn_due (counter : FailureCounter) : counter.due.isTurn = true := by
  unfold due
  split <;> rfl

/-- Two turns in a row never are the same, and the first is the one that was due. -/
theorem Counts.turns_alternate {limit misses : Nat} {counter : FailureCounter}
    (counts : Counts limit misses counter) (positive : 0 < limit) (outcomes : List PollOutcome) :
    (counter.turns outcomes).IsChain (· ≠ ·) ∧
      ∀ first ∈ (counter.turns outcomes).head?, first = counter.due := by
  induction outcomes generalizing counter misses with
  | nil => exact ⟨.nil, nofun⟩
  | cons outcome rest ih =>
    have next : ∃ misses', Counts limit misses' (counter.record outcome).2 := by
      cases outcome with
      | failure => exact ⟨_, counts.failure⟩
      | success => exact ⟨_, counts.success⟩
    obtain ⟨misses', next⟩ := next
    obtain ⟨chain, head⟩ := ih next
    obtain ⟨turned, flipped⟩ | ⟨silent, kept⟩ := counts.turn positive outcome
    · have seen : (counter.record outcome).1.isTurn = true := turned ▸ counter.isTurn_due
      have differs : counter.due ≠ (counter.record outcome).2.due := by
        unfold due
        rw [flipped]
        cases counter.isStale <;> simp
      rw [turns_cons, if_pos seen, turned]
      refine ⟨List.isChain_cons.mpr ⟨fun second behind => ?_, chain⟩, ?_⟩
      · rw [head second behind]
        exact differs
      · exact fun first same => (Option.some.inj same).symm
    · rw [turns_cons, silent]
      rw [due, kept] at head
      exact ⟨chain, head⟩

/-- **The counter tells how many polls failed in a row, up to its limit,** which counts as one if it
is zero. The data is stale while that many or more have failed; the failure that makes them as many
is reported, and so is the success that ends such a run, and these reports take turns. Every other
failure is reported with its count. -/
theorem run_counts (limit : UInt32) (outcomes : List PollOutcome) :
    let most := max 1 limit.toNat
    let misses := failuresInRow outcomes
    let counter := (ofLimit limit).recordAll outcomes
    let turns := (ofLimit limit).turns outcomes
    counter.count.toNat = min most misses ∧
    (counter.isStale = true ↔ most ≤ misses) ∧
    (¬counter.limit ≤ counter.count → (counter.count + 1).toNat = counter.count.toNat + 1) ∧
    (∀ last, (ofLimit limit).events (outcomes ++ [last]) = (ofLimit limit).events outcomes ++
      [match last with
        | .failure =>
          if misses + 1 = most then .becameStale else .failed (counter.record .failure).2.count
        | .success => if most ≤ misses then .recovered else .ok]) ∧
    turns.IsChain (· ≠ ·) ∧ ∀ first ∈ turns.head?, first = .becameStale := by
  intro most misses counter turns
  have counts : Counts most misses counter := counts_recordAll limit outcomes
  refine ⟨?_, counts.isStale_iff, toNat_count_succ, fun last => ?_, ?_⟩
  · rw [Nat.min_comm]
    exact counts.counted
  · rw [events_snoc]
    cases last with
    | failure => exact congrArg (_ ++ [·]) counts.failure_event
    | success => exact congrArg (_ ++ [·]) counts.success_event
  · have start := counts_ofLimit limit
    have first_due : (ofLimit limit).due = .becameStale := by
      rw [due, if_neg (mt start.isStale_iff.mp (by omega))]
    rw [← first_due]
    exact start.turns_alternate (by omega) outcomes

/-- Under a limit of zero every first failure counts. -/
example : (ofLimit 0).events [.failure, .failure, .success, .success, .failure] =
    [.becameStale, .failed 1, .recovered, .ok, .becameStale] := by decide

end FailureCounter

end UpsMonitor
