import UpsMonitor.Proofs.Frame.OneShot

/-!
# Frame boundaries

Where a frame stands in a stream, between noise that starts no frame and whatever follows. Main
statements:

* `oneShot_between`: a GPSER frame reaches from its start pattern to the first end byte;
* `oneShot_declared`: a SENTRY frame reaches as far as its second byte says;
* `frame_infix`: either way a frame is a run of the bytes that were fed.
-/

namespace UpsMonitor.Assembler

section
variable {noise inner rest : Bytes} {second : UInt8}

theorem firstStart?_between (quiet : firstStart? .gpser noise = none) (visible : 0x20 < second) :
    firstStart? .gpser (noise ++ 0x02 :: second :: (inner ++ 0x03 :: rest)) =
      some (noise.length + 1) := by
  rw [firstStart?_eq_some]
  constructor
  · rw [startsAt_iff]
    refine ⟨by omega, 0x02, second, ?_, ?_, rfl, visible⟩
    · simp
    · rw [List.getElem?_append_right (by omega)]
      simp
  · intro k before
    by_cases inside : k < noise.length
    · rw [startsAt_append .gpser noise _ inside]
      simpa using List.find?_eq_none.mp quiet k (List.mem_range.mpr inside)
    · obtain rfl : k = noise.length := by omega
      rw [Bool.eq_false_iff]
      intro starts
      obtain ⟨_, _, current, _, at_start, _, above⟩ := startsAt_iff.mp starts
      rw [List.getElem?_append_right (Nat.le_refl _)] at at_start
      simp only [Nat.sub_self, List.getElem?_cons_zero, Option.some_inj] at at_start
      subst at_start
      exact absurd above (by decide)

theorem firstEnd?_between (open_inside : 0x03 ∉ inner) :
    firstEnd? (noise ++ 0x02 :: second :: (inner ++ 0x03 :: rest)) (noise.length + 1) =
      some (noise.length + 2 + inner.length) := by
  have behind (k : Nat) :
      (noise ++ 0x02 :: second :: (inner ++ 0x03 :: rest))[noise.length + 2 + k]? =
        (inner ++ 0x03 :: rest)[k]? := by
    rw [List.getElem?_append_right (by omega)]
    have place : noise.length + 2 + k - noise.length = k + 1 + 1 := by omega
    rw [place, List.getElem?_cons_succ, List.getElem?_cons_succ]
  rw [firstEnd?_eq_some]
  refine ⟨by omega, by simp [behind], fun k after before => ?_⟩
  obtain ⟨k, rfl⟩ : ∃ j, k = noise.length + 2 + j := ⟨k - (noise.length + 2), by omega⟩
  rw [behind, List.getElem?_append_left (by omega)]
  exact fun ends => open_inside (List.mem_of_getElem? ends)

/-- **A GPSER frame reaches from its start pattern to the first end byte.** Noise before it and
bytes behind it do not matter. -/
theorem oneShot_between (mode : CheckMode) (quiet : firstStart? .gpser noise = none)
    (visible : 0x20 < second) (open_inside : 0x03 ∉ inner) :
    oneShot .gpser mode (noise ++ (0x02 :: second :: (inner ++ [0x03])) ++ rest) =
      finished .gpser mode ((0x02 :: second :: (inner ++ [0x03])).take 512) := by
  let frame := 0x02 :: second :: (inner ++ [0x03])
  have shape : noise ++ frame ++ rest = noise ++ 0x02 :: second :: (inner ++ 0x03 :: rest) := by
    simp [frame]
  have start : firstStart? .gpser (noise ++ frame ++ rest) = some (noise.length + 1) :=
    shape ▸ firstStart?_between quiet visible
  have ends : firstEnd? (noise ++ frame ++ rest) (noise.length + 1) =
      some (noise.length + 2 + inner.length) := shape ▸ firstEnd?_between open_inside
  have count : noise.length + 2 + inner.length - (noise.length + 1) + 2 = frame.length := by
    simp only [frame, List.length_cons, List.length_append, List.length_nil]; omega
  have found : (noise ++ frame ++ rest).drop (noise.length + 1 - 1) = frame ++ rest := by
    rw [Nat.add_sub_cancel, List.append_assoc, List.drop_left]
  change oneShot .gpser mode (noise ++ frame ++ rest) = _
  rw [oneShot_gpser_ended start ends, found, count, List.take_left]

end

/-- **A SENTRY frame reaches as far as its second byte says.** Neither its other bytes nor what
follows it matter. -/
theorem oneShot_declared (mode : CheckMode) {first second : UInt8} {body : Bytes} (rest : Bytes)
    (pair : StartPair .sentry first second)
    (whole : (first :: second :: body).length = second.toNat) :
    oneShot .sentry mode (first :: second :: body ++ rest) =
      finished .sentry mode (first :: second :: body) := by
  have start : firstStart? .sentry (first :: second :: body ++ rest) = some 1 := by
    rw [firstStart?_eq_some]
    refine ⟨by simpa [startsAt] using pair, fun k before => ?_⟩
    obtain rfl : k = 0 := by omega
    rfl
  have total : (first :: second :: body ++ rest).getD 1 0 = second := rfl
  have enough : ((first :: second :: body ++ rest).getD 1 0).toNat ≤
      ((first :: second :: body ++ rest).drop (1 - 1)).length := by
    rw [total, ← whole, Nat.sub_self, List.drop_zero, List.length_append]
    omega
  rw [oneShot_sentry_ended start enough, total, ← whole, Nat.sub_self, List.drop_zero,
    List.take_left]

/-- **A frame is a run of the bytes that were fed.** -/
theorem frame_infix {family : Family} {mode : CheckMode} {bytes : Bytes} {frame : Frame}
    (held : ((empty family mode).feedAll bytes).frame? = some frame) : frame.bytes <:+: bytes := by
  have piece (start count : Nat) : (bytes.drop start).take count <:+: bytes :=
    (List.take_prefix _ _).isInfix.trans (List.drop_suffix _ _).isInfix
  rw [empty_feedAll] at held
  cases start : firstStart? family bytes with
  | none =>
    rw [oneShot_idle start] at held
    cases held
  | some i =>
    cases family with
    | gpser =>
      cases ends : firstEnd? bytes i with
      | none =>
        rw [oneShot_gpser_open start ends] at held
        cases held
      | some j =>
        rw [oneShot_gpser_ended start ends] at held
        cases held
        exact (List.take_prefix _ _).isInfix.trans (piece _ _)
    | sentry =>
      by_cases enough : (bytes.getD i 0).toNat ≤ (bytes.drop (i - 1)).length
      · rw [oneShot_sentry_ended start enough] at held
        cases held
        exact piece _ _
      · rw [oneShot_sentry_open start (by omega)] at held
        cases held

end UpsMonitor.Assembler
