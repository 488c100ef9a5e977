import Mathlib.Algebra.Group.Defs
import Mathlib.Data.List.Basic
import Mathlib.Logic.Function.Basic
import UpsMonitor.Proofs.Checksum
import UpsMonitor.Proofs.Checksum.Cyclic

/-!
# Corruption on the wire

Which changes of a frame its guard word notices. Both guard words and the number that nibble
characters spell are folds over bytes, and no step of them forgets what came before. Main
statements:

* `foldl_change_iff`: so a changed stretch is noticed at the end if it is noticed where it stands;
* `altered_byte_passes_iff`: a change of one byte passes exactly where nothing guards the byte;
* `burst_is_noticed`: the cyclic check notices every change of two neighbours.
-/

namespace UpsMonitor.Checksum

/-! ## Folds that forget nothing -/

section
variable {α β : Type} {step : α → β → α}

theorem foldl_injective (keeps : ∀ item, Function.Injective (step · item)) (items : List β) :
    Function.Injective fun start => items.foldl step start := by
  induction items with
  | nil => exact Function.injective_id
  | cons item rest ih => exact ih.comp (keeps item)

theorem foldl_change_iff (keeps : ∀ item, Function.Injective (step · item)) (start : α)
    (before old new after : List β) :
    (before ++ new ++ after).foldl step start = (before ++ old ++ after).foldl step start ↔
      new.foldl step (before.foldl step start) = old.foldl step (before.foldl step start) := by
  simp only [List.foldl_append]
  exact (foldl_injective keeps after).eq_iff

theorem foldl_set_iff (keeps : ∀ item, Function.Injective (step · item)) (start : α)
    {items : List β} {i : Nat} (inside : i < items.length) (item : β) :
    (items.set i item).foldl step start = items.foldl step start ↔
      step ((items.take i).foldl step start) item =
        step ((items.take i).foldl step start) items[i] := by
  have altered : items.take i ++ [item] ++ items.drop (i + 1) = items.set i item := by
    rw [List.set_eq_take_append_cons_drop, if_pos inside, List.append_assoc, List.singleton_append]
  have whole : items.take i ++ [items[i]] ++ items.drop (i + 1) = items := by simp
  have change := foldl_change_iff keeps start (items.take i) [items[i]] [item] (items.drop (i + 1))
  rwa [altered, whole] at change

end

/-! ## Guard words -/

theorem byteSum_set_iff {bytes : Bytes} {i : Nat} (inside : i < bytes.length) (byte : UInt8) :
    byteSum (bytes.set i byte) = byteSum bytes ↔ byte = bytes[i] := by
  have keeps (item : UInt8) : Function.Injective fun sum : UInt16 => sum + item.toUInt16 :=
    fun _ _ same => UInt16.add_left_inj _ |>.mp same
  rw [byteSum, byteSum, foldl_set_iff keeps 0 inside, UInt16.add_right_inj, UInt8.toUInt16_inj]

theorem crc_set_iff {bytes : Bytes} {i : Nat} (inside : i < bytes.length) (byte : UInt8) :
    crc (bytes.set i byte) = crc bytes ↔ byte = bytes[i] := by
  rw [crc, crc, foldl_set_iff crcStep_injective crcSeed inside, crcStep_right_inj]

/-- Only the start byte of GPSER content is not guarded. -/
theorem word_gpser_set_iff {mode : CheckMode} {content : Bytes} {i : Nat}
    (inside : i < content.length) (byte : UInt8) :
    word .gpser mode (content.set i byte) = word .gpser mode content ↔
      i = 0 ∨ byte = content[i] := by
  cases content with
  | nil => cases inside
  | cons start body =>
    cases i with
    | zero => cases mode <;> simp [word]
    | succ i =>
      have inside : i < body.length := Nat.lt_of_succ_lt_succ inside
      cases mode with
      | sum => simpa [word] using byteSum_set_iff inside byte
      | crc => simpa [word] using crc_set_iff inside byte

/-- Only the last byte of SENTRY content of 101 bytes is not guarded. -/
theorem word_sentry_set_iff {mode : CheckMode} {content : Bytes} {i : Nat}
    (inside : i < content.length) (byte : UInt8) :
    word .sentry mode (content.set i byte) = word .sentry mode content ↔
      (content.length = 101 ∧ i = 100) ∨ byte = content[i] := by
  simp only [word, summedSpan, List.length_set]
  by_cases short : content.length = 101
  · rw [if_pos short, if_pos short, List.take_set]
    by_cases summed : i < 100
    · have inside : i < (content.take 100).length := by
        rw [List.length_take]
        omega
      rw [byteSum_set_iff inside, List.getElem_take]
      simp [short, Nat.ne_of_lt summed]
    · have last : i = 100 := by omega
      rw [List.set_eq_of_length_le (by rw [List.length_take]; omega)]
      simp [short, last]
  · rw [if_neg short, if_neg short, byteSum_set_iff inside]
    simp [short]

/-- Only the low four bits of a guard character are read. -/
theorem decode_set_iff {chars : Bytes} (few : chars.length ≤ 4) {i : Nat}
    (inside : i < chars.length) (char : UInt8) :
    (Nibble.decode (chars.set i char)).toUInt16 = (Nibble.decode chars).toUInt16 ↔
      char &&& 0x0F = chars[i] &&& 0x0F := by
  have low (byte : UInt8) : (byte &&& 0x0F).toNat = byte.toNat % 16 := by
    rw [UInt8.toNat_and]
    exact Nat.and_two_pow_sub_one_eq_mod byte.toNat 4
  have keeps (item : UInt8) : Function.Injective fun number => 16 * number + item.toNat % 16 := by
    intro m n same
    simp only at same
    omega
  rw [← UInt16.toNat_inj, ← UInt8.toNat_inj, low, low, Nibble.toNat_decode_toUInt16 few,
    Nibble.toNat_decode_toUInt16 (by rwa [List.length_set]), Nibble.value, Nibble.value,
    foldl_set_iff keeps 0 inside]
  omega

/-! ## Frames -/

theorem exists_parts_gpser {frame : Bytes} (long : 5 ≤ frame.length) :
    ∃ content chars last, chars.length = 4 ∧ frame = content ++ chars ++ [last] := by
  have some_last : frame ≠ [] := List.ne_nil_of_length_pos (by omega)
  let body := frame.dropLast
  have length : body.length = frame.length - 1 := List.length_dropLast
  refine ⟨body.take (body.length - 4), body.drop (body.length - 4), frame.getLast some_last, ?_, ?_⟩
  · rw [List.length_drop]
    omega
  · rw [List.take_append_drop]
    exact (List.dropLast_concat_getLast some_last).symm

theorem exists_parts_sentry {mode : CheckMode} {frame : Bytes}
    (passes : verify .sentry mode frame = true) :
    ∃ content low high, frame = content ++ [low, high] := by
  match tail : frame.drop (frame.length - 2) with
  | [low, high] =>
    refine ⟨frame.take (frame.length - 2), low, high, ?_⟩
    rw [← tail, List.take_append_drop]
  | [] | [_] | _ :: _ :: _ :: _ => simp [verify, split?, tail] at passes

section
variable {mode : CheckMode} {i : Nat} {byte : UInt8}

theorem verify_content_set_iff {content chars : Bytes} {last : UInt8} (four : chars.length = 4)
    (passes : verify .gpser mode (content ++ chars ++ [last]) = true)
    (inside : i < content.length) :
    verify .gpser mode (content.set i byte ++ chars ++ [last]) = true ↔
      i = 0 ∨ byte = content[i] := by
  rw [verify_gpser_iff four, ← (verify_gpser_iff four).mp passes, word_gpser_set_iff inside]

theorem verify_guard_set_iff {content chars : Bytes} {last : UInt8} (four : chars.length = 4)
    (passes : verify .gpser mode (content ++ chars ++ [last]) = true) (inside : i < chars.length) :
    verify .gpser mode (content ++ chars.set i byte ++ [last]) = true ↔
      byte &&& 0x0F = chars[i] &&& 0x0F := by
  rw [verify_gpser_iff (by rwa [List.length_set]), (verify_gpser_iff four).mp passes, eq_comm,
    decode_set_iff (Nat.le_of_eq four) inside]

/-- Another byte in a GPSER frame is not noticed if it is the first or the last, or a guard
character with the same low four bits. -/
theorem verify_gpser_set_iff {frame : Bytes} (passes : verify .gpser mode frame = true)
    (long : 6 ≤ frame.length) (inside : i < frame.length) (altered : byte ≠ frame[i]) :
    verify .gpser mode (frame.set i byte) = true ↔
      i = 0 ∨ i + 1 = frame.length ∨
        (frame.length ≤ i + 5 ∧ i + 1 < frame.length ∧ byte &&& 0x0F = frame[i] &&& 0x0F) := by
  obtain ⟨content, chars, last, four, rfl⟩ := exists_parts_gpser (Nat.le_of_succ_le long)
  have length : (content ++ chars ++ [last]).length = content.length + 5 := by simp [four]
  rcases Nat.lt_or_ge i content.length with early | late
  · have here : (content ++ chars ++ [last])[i] = content[i] := by
      simp only [List.append_assoc, List.getElem_append_left early]
    have after : (content ++ chars ++ [last]).set i byte =
        content.set i byte ++ chars ++ [last] := by
      simp only [List.append_assoc, List.set_append_left i byte early]
    rw [here] at altered
    rw [after, verify_content_set_iff four passes early]
    simp only [altered, or_false]
    omega
  · rcases Nat.lt_or_ge (i - content.length) chars.length with guard | behind
    · have here : (content ++ chars ++ [last])[i] = chars[i - content.length] := by
        simp only [List.append_assoc, List.getElem_append_right late,
          List.getElem_append_left guard]
      have after : (content ++ chars ++ [last]).set i byte =
          content ++ chars.set (i - content.length) byte ++ [last] := by
        simp only [List.append_assoc, List.set_append_right i byte late,
          List.set_append_left _ byte guard]
      have between : i ≠ 0 ∧ i + 1 ≠ content.length + 5 ∧ content.length + 5 ≤ i + 5 ∧
          i + 1 < content.length + 5 := by omega
      rw [after, verify_guard_set_iff four passes guard, here, length]
      simp only [between, false_or, true_and]
    · have after : (content ++ chars ++ [last]).set i byte = content ++ chars ++ [byte] := by
        have zero : i - content.length - chars.length = 0 := by omega
        simp only [List.append_assoc, List.set_append_right i byte late,
          List.set_append_right _ byte behind, zero, List.set_cons_zero]
      have still : verify .gpser mode (content ++ chars ++ [byte]) = true :=
        (verify_gpser_iff four).mpr ((verify_gpser_iff four).mp passes)
      rw [after]
      simp only [still, true_iff]
      omega

/-- Another byte in a SENTRY frame is not noticed if it is the last of 101 before the guard. -/
theorem verify_sentry_set_iff {frame : Bytes} (passes : verify .sentry mode frame = true)
    (inside : i < frame.length) (altered : byte ≠ frame[i]) :
    verify .sentry mode (frame.set i byte) = true ↔ frame.length = 103 ∧ i = 100 := by
  obtain ⟨content, low, high, rfl⟩ := exists_parts_sentry passes
  have length : (content ++ [low, high]).length = content.length + 2 := by simp
  have guarded := verify_sentry_iff.mp passes
  rcases Nat.lt_or_ge i content.length with early | late
  · rw [List.getElem_append_left early] at altered
    rw [List.set_append_left i byte early, verify_sentry_iff, ← guarded, word_sentry_set_iff early]
    simp only [altered, or_false]
    omega
  · rw [List.getElem_append_right late] at altered
    rw [List.set_append_right i byte late]
    obtain first | second : i - content.length = 0 ∨ i - content.length = 1 := by omega
    · simp only [first, List.getElem_cons_zero] at altered
      rw [first, List.set_cons_zero, verify_sentry_iff, guarded, Word.ofLittleEndian_inj]
      simp only [Ne.symm altered, false_and, false_iff]
      omega
    · simp only [second, List.getElem_cons_succ, List.getElem_cons_zero] at altered
      rw [second, List.set_cons_succ, List.set_cons_zero, verify_sentry_iff, guarded,
        Word.ofLittleEndian_inj]
      simp only [Ne.symm altered, and_false, false_iff]
      omega

/-- **A change of one byte passes exactly where nothing guards the byte.** In a GPSER frame that is
the first byte, the last one, and the upper half of the guard characters; in a SENTRY frame it is
byte 100 of the short reply. So every other change of one byte is noticed, in either mode. -/
theorem altered_byte_passes_iff {frame : Bytes} (inside : i < frame.length)
    (altered : byte ≠ frame[i]) :
    (verify .gpser mode frame = true → 6 ≤ frame.length →
      (verify .gpser mode (frame.set i byte) = true ↔
        i = 0 ∨ i + 1 = frame.length ∨
          (frame.length ≤ i + 5 ∧ i + 1 < frame.length ∧ byte &&& 0x0F = frame[i] &&& 0x0F)) ∧
      (0 < i → i + 5 < frame.length → verify .gpser mode (frame.set i byte) = false)) ∧
    (verify .sentry mode frame = true →
      (verify .sentry mode (frame.set i byte) = true ↔ frame.length = 103 ∧ i = 100) ∧
      (¬(frame.length = 103 ∧ i = 100) → verify .sentry mode (frame.set i byte) = false)) := by
  constructor
  · intro passes long
    have unnoticed := verify_gpser_set_iff passes long inside altered
    refine ⟨unnoticed, fun behind before => ?_⟩
    rw [← Bool.not_eq_true, unnoticed]
    omega
  · intro passes
    have unnoticed := verify_sentry_set_iff passes inside altered
    refine ⟨unnoticed, fun other => ?_⟩
    rw [← Bool.not_eq_true, unnoticed]
    exact other

end

/-- A guard character may have other upper bits, also in the cyclic mode, and byte 100 of a short
reply may be anything. Their neighbours may not. -/
theorem unguarded_bytes_pass :
    let frame : Bytes :=
      [0x02, 0x22, 0x20, 0x43, 0x44, 0x30, 0x30, 0x3A, 0x38, 0x3E, 0x3A, 0x03]
    let reply := append .sentry .sum (List.replicate 101 0x20)
    (verify .gpser .crc frame = true ∧ verify .gpser .crc (frame.set 8 0xF8) = true ∧
      verify .gpser .crc (frame.set 6 0x31) = false) ∧
    verify .sentry .sum reply = true ∧ verify .sentry .sum (reply.set 100 0xDF) = true ∧
      verify .sentry .sum (reply.set 99 0xDF) = false := by
  intro frame reply
  have acknowledged : verify .gpser .crc frame = true := by decide +kernel
  have replied : verify .sentry .sum reply = true := verify_append_sentry .sum .sum _
  refine ⟨⟨acknowledged, ?_, ?_⟩, replied, ?_, ?_⟩
  · apply ((@altered_byte_passes_iff .crc 8 0xF8 frame (by decide) (by decide)).1
      acknowledged (by decide)).1.mpr
    exact .inr (.inr (by decide))
  · exact ((@altered_byte_passes_iff .crc 6 0x31 frame (by decide) (by decide)).1
      acknowledged (by decide)).2 (by decide) (by decide)
  · apply ((@altered_byte_passes_iff .sum 100 0xDF reply (by decide) (by decide)).2
      replied).1.mpr
    decide
  · apply ((@altered_byte_passes_iff .sum 99 0xDF reply (by decide) (by decide)).2
      replied).2
    decide

/-! ## Bursts -/

theorem crc_burst_iff {before after : Bytes} {a b c d : UInt8} :
    crc (before ++ [a, b] ++ after) = crc (before ++ [c, d] ++ after) ↔ a = c ∧ b = d := by
  rw [crc, crc, foldl_change_iff crcStep_injective]
  exact crcStep_twice_inj

theorem set_pair {bytes : Bytes} {i : Nat} (inside : i + 1 < bytes.length) (a b : UInt8) :
    (bytes.set i a).set (i + 1) b = bytes.take i ++ [a, b] ++ bytes.drop (i + 2) := by
  have length : (bytes.take i).length = i := List.length_take_of_le (by omega)
  have first : bytes.set i a = bytes.take i ++ a :: bytes[i + 1] :: bytes.drop (i + 2) := by
    rw [List.set_eq_take_append_cons_drop, if_pos (Nat.lt_of_succ_lt inside),
      List.drop_eq_getElem_cons inside]
  rw [first, List.set_append_right _ _ (by omega), length, Nat.add_sub_cancel_left,
    List.set_cons_succ, List.set_cons_zero, List.append_assoc]
  rfl

theorem crc_set_pair_iff {bytes : Bytes} {i : Nat} (inside : i + 1 < bytes.length) (a b : UInt8) :
    crc ((bytes.set i a).set (i + 1) b) = crc bytes ↔
      bytes[i]? = some a ∧ bytes[i + 1]? = some b := by
  have whole : bytes.take i ++ [bytes[i], bytes[i + 1]] ++ bytes.drop (i + 2) = bytes := by
    rw [← set_pair inside, List.set_getElem_self, List.set_getElem_self]
  have same : crc ((bytes.set i a).set (i + 1) b) = crc bytes ↔
      a = bytes[i] ∧ b = bytes[i + 1] := by
    rw [set_pair inside, ← crc_burst_iff, whole]
  rw [same, List.getElem?_eq_getElem (Nat.lt_of_succ_lt inside), List.getElem?_eq_getElem inside,
    Option.some_inj, Option.some_inj, eq_comm, @eq_comm _ b]

theorem verify_set_pair {frame : Bytes} {i : Nat} {a b : UInt8}
    (passes : verify .gpser .crc frame = true) (behind : 0 < i) (before : i + 6 < frame.length)
    (altered : ¬(frame[i]? = some a ∧ frame[i + 1]? = some b)) :
    verify .gpser .crc ((frame.set i a).set (i + 1) b) = false := by
  obtain ⟨content, chars, last, four, rfl⟩ := @exists_parts_gpser frame (by omega)
  have length : (content ++ chars ++ [last]).length = content.length + 5 := by simp [four]
  have inside : i + 1 < content.length := by omega
  match content, i, behind, inside with
  | start :: body, i + 1, _, inside =>
    have inside : i + 1 < body.length := Nat.lt_of_succ_lt_succ inside
    have after : ((start :: body ++ chars ++ [last]).set (i + 1) a).set (i + 2) b =
        start :: (body.set i a).set (i + 1) b ++ chars ++ [last] := by
      simp [inside, Nat.lt_of_succ_lt inside]
    rw [after, ← Bool.not_eq_true, verify_gpser_iff four, ← (verify_gpser_iff four).mp passes]
    change ¬(crc ((body.set i a).set (i + 1) b) = crc body)
    rw [crc_set_pair_iff inside]
    rintro ⟨first, second⟩
    apply altered
    simp [List.getElem?_append_left, inside, Nat.lt_of_succ_lt inside, ← first, ← second]

/-- **The cyclic check notices every change of two neighbours.** A frame that passes does not pass
with another pair of bytes anywhere between its start byte and its guard: whatever stands before
them and behind them, two pairs give two guard words. -/
theorem burst_is_noticed :
    (∀ (frame : Bytes) (i : Nat) (a b : UInt8), verify .gpser .crc frame = true → 0 < i →
      i + 6 < frame.length → ¬(frame[i]? = some a ∧ frame[i + 1]? = some b) →
      verify .gpser .crc ((frame.set i a).set (i + 1) b) = false) ∧
    ∀ (before after : Bytes) (a b c d : UInt8), (a, b) ≠ (c, d) →
      crc (before ++ [a, b] ++ after) ≠ crc (before ++ [c, d] ++ after) := by
  constructor
  · intro frame i a b passes behind before altered
    exact verify_set_pair passes behind before altered
  · intro before after a b c d other same
    obtain ⟨rfl, rfl⟩ := crc_burst_iff.mp same
    exact other rfl

/-- Two digits change places. The sum is the same, the cyclic check is not. -/
theorem swapped_digits_are_noticed :
    let frame : Bytes :=
      [0x02, 0x22, 0x20, 0x43, 0x44, 0x30, 0x31, 0x33, 0x38, 0x37, 0x3A, 0x03]
    verify .gpser .crc frame = true ∧
      verify .gpser .crc ((frame.set 5 0x31).set 6 0x30) = false ∧
      byteSum ([0x43] ++ [0x30, 0x31] ++ [0x44]) = byteSum ([0x43] ++ [0x31, 0x30] ++ [0x44]) ∧
      crc ([0x43] ++ [0x30, 0x31] ++ [0x44]) ≠ crc ([0x43] ++ [0x31, 0x30] ++ [0x44]) := by
  intro frame
  obtain ⟨in_frames, in_words⟩ := burst_is_noticed
  have passes : verify .gpser .crc frame = true := by decide +kernel
  refine ⟨passes, ?_, by decide, ?_⟩
  · exact in_frames frame 5 0x31 0x30 passes (by decide) (by decide) (by decide)
  · exact in_words [0x43] [0x44] 0x30 0x31 0x31 0x30 (by decide)

end UpsMonitor.Checksum
