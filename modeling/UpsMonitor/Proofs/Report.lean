import Mathlib.Algebra.Group.Nat.Defs
import UpsMonitor.Report

/-!
# Reports carry a byte run

Main statements:

* `flatMap_payload_ofBytes`: the payloads of the reports of a byte run, one behind the other, are
  the run;
* `length_ofBytes`: there are as many reports as it takes to carry seven bytes each;
* `getElem?_ofBytes`: the report at an index carries the seven bytes from seven times the index on;
* `reports_round_trip`: what reports look like and what is read out of them;
* `flatMap_payload_active`: reports without payload may stand anywhere between them;
* `payload_header`: the upper five bits of a first byte do not matter;
* `pause_mono`, `pause_bounds`: a longer delay never makes the pause behind a report shorter.
-/

namespace UpsMonitor.Report

theorem payload_pack {chunk : Bytes} (fits : chunk.length ≤ capacity) :
    payload (pack chunk) = chunk := by
  have count : ∀ n, n < 8 → ((0x30 + UInt8.ofNat n) &&& 0x07).toNat = n := by decide
  have length := count chunk.length (Nat.lt_succ_of_le fits)
  rw [pack, List.cons_append, payload, length, List.take_left]

theorem payload_first (byte : UInt8) (rest : Bytes) :
    payload (pack (byte :: rest.take (capacity - 1))) = byte :: rest.take (capacity - 1) := by
  apply payload_pack
  simp only [List.length_cons, List.length_take, capacity]
  omega

theorem flatMap_payload_ofBytes (bytes : Bytes) : (ofBytes bytes).flatMap payload = bytes := by
  fun_induction ofBytes bytes with
  | case1 => rfl
  | case2 byte rest ih =>
    rw [List.flatMap_cons, payload_first, ih, List.cons_append, List.take_append_drop]

theorem length_ofBytes (bytes : Bytes) : (ofBytes bytes).length = (bytes.length + 6) / 7 := by
  fun_induction ofBytes bytes with
  | case1 => rfl
  | case2 byte rest ih =>
    rw [List.length_cons, ih, List.length_drop]
    simp only [List.length_cons, capacity]
    omega

theorem length_pack {chunk : Bytes} (fits : chunk.length ≤ capacity) :
    (pack chunk).length = size := by
  simp only [pack, List.cons_append, List.length_cons, List.length_append, List.length_replicate]
  simp only [capacity, size] at fits ⊢
  omega

theorem getElem?_ofBytes (bytes : Bytes) (k : Nat) :
    (ofBytes bytes)[k]? =
      if 7 * k < bytes.length then some (pack ((bytes.drop (7 * k)).take 7)) else none := by
  fun_induction ofBytes bytes generalizing k with
  | case1 => simp
  | case2 byte rest ih =>
    cases k with
    | zero => simp [capacity]
    | succ k =>
      have later : 7 * (k + 1) = 7 * k + 6 + 1 := by omega
      rw [List.getElem?_cons_succ, ih, List.length_drop, List.drop_drop, later,
        List.drop_succ_cons, List.length_cons, Nat.add_comm]
      simp only [capacity]
      congr 1
      simp only [eq_iff_iff]
      omega

/-- The count is the low three bits of its byte, clamped to the bytes that are there. -/
theorem payload_cons (count : UInt8) (bytes : Bytes) :
    payload (count :: bytes) = bytes.take (min (count.toNat % 8) bytes.length) := by
  have low : (count &&& 0x07).toNat = count.toNat % 8 := by
    rw [UInt8.toNat_and]
    exact Nat.and_two_pow_sub_one_eq_mod count.toNat 3
  rw [payload, low, ← List.take_eq_take_min]

/-- The upper five bits of the first byte do not matter. -/
theorem payload_header {header other : UInt8} (same : header.toNat % 8 = other.toNat % 8)
    (bytes : Bytes) : payload (header :: bytes) = payload (other :: bytes) := by
  rw [payload_cons, payload_cons, same]

theorem length_payload_le (report : Bytes) : (payload report).length ≤ capacity := by
  cases report with
  | nil => exact Nat.zero_le _
  | cons count bytes =>
    rw [payload_cons, List.length_take, capacity]
    omega

/-! ## The look of reports -/

section
variable {bytes : Bytes}

theorem length_of_mem_ofBytes {report : Bytes} (h : report ∈ ofBytes bytes) :
    report.length = size := by
  obtain ⟨k, found⟩ := List.getElem?_of_mem h
  rw [getElem?_ofBytes] at found
  split at found
  · cases found
    exact length_pack (List.length_take_le _ _)
  · cases found

/-- Every report but the last is full. -/
theorem getElem?_full {k : Nat} (followed : k + 1 < (ofBytes bytes).length) :
    (ofBytes bytes)[k]? = some (0x37 :: (bytes.drop (7 * k)).take 7) := by
  rw [length_ofBytes] at followed
  have seven : ((bytes.drop (7 * k)).take 7).length = 7 := by
    rw [List.length_take, List.length_drop]
    omega
  rw [getElem?_ofBytes, if_pos (by omega), pack, seven]
  simp [capacity]

/-- The last report carries what is left, which is never nothing. -/
theorem getLast?_shape {last : Bytes} (h : (ofBytes bytes).getLast? = some last) :
    let carried := bytes.drop (7 * ((ofBytes bytes).length - 1))
    1 ≤ carried.length ∧ carried.length ≤ 7 ∧
      last = (0x30 + UInt8.ofNat carried.length) :: carried ++
        List.replicate (7 - carried.length) 0x30 := by
  intro carried
  rw [List.getLast?_eq_getElem?, getElem?_ofBytes] at h
  split at h
  · next inside =>
    have length : carried.length = bytes.length - 7 * ((ofBytes bytes).length - 1) :=
      List.length_drop
    have whole : carried.length ≤ 7 := by
      rw [length, length_ofBytes]
      omega
    refine ⟨by omega, whole, ?_⟩
    cases h
    rw [List.take_of_length_le whole]
    rfl
  · cases h

end

/-- **Reports carry a byte run and nothing else.** There are as many as it takes, of eight bytes
each. All but the last are full; the last one says how many bytes it carries, at least one, and is
filled up. Their payloads give the run back. Out of any report at all, however long it is, comes as
much as its first byte counts in the lowest three bits, if that much is there. -/
theorem reports_round_trip (bytes : Bytes) :
    let reports := ofBytes bytes
    reports.length = (bytes.length + 6) / 7 ∧
    (∀ report ∈ reports, report.length = 8) ∧
    (∀ k, k + 1 < reports.length → reports[k]? = some (0x37 :: (bytes.drop (7 * k)).take 7)) ∧
    (∀ last, reports.getLast? = some last →
      let carried := bytes.drop (7 * (reports.length - 1))
      1 ≤ carried.length ∧ carried.length ≤ 7 ∧
        last = (0x30 + UInt8.ofNat carried.length) :: carried ++
          List.replicate (7 - carried.length) 0x30) ∧
    reports.flatMap payload = bytes ∧
    payload [] = [] ∧
    ∀ header rest, payload (header :: rest) <+: rest ∧
      (payload (header :: rest)).length = min (header.toNat % 8) rest.length := by
  intro reports
  refine ⟨length_ofBytes bytes, fun report member => length_of_mem_ofBytes member,
    fun k followed => getElem?_full followed, fun last ends => getLast?_shape ends,
    flatMap_payload_ofBytes bytes, rfl, fun header rest => ?_⟩
  rw [payload_cons]
  refine ⟨List.take_prefix _ _, ?_⟩
  rw [List.length_take]
  omega

/-- Fourteen bytes fill two reports, and no empty one follows. -/
theorem fourteen_bytes_in_two_reports :
    let reports := ofBytes (List.replicate 14 0xAA)
    let full : Bytes := 0x37 :: List.replicate 7 0xAA
    reports.length = 2 ∧ reports[0]? = some full ∧ reports.getLast? = some full := by
  intro reports full
  obtain ⟨length, -, followed, ends, -⟩ := reports_round_trip (List.replicate 14 0xAA)
  have two : reports.length = 2 := length
  have ne : reports ≠ [] := List.ne_nil_of_length_pos (by omega)
  have found := List.getLast?_eq_some_getLast ne
  obtain ⟨-, -, shape⟩ := ends _ found
  refine ⟨two, followed 0 (by rw [length]; decide), ?_⟩
  rw [found, shape, two]
  rfl

/-! ## Idle reports -/

/-- A report without payload. -/
def isIdle (report : Bytes) : Bool := (payload report).isEmpty

/-- Idle reports bring nothing. -/
theorem flatMap_payload_active (reports : List Bytes) :
    (reports.filter fun report => !isIdle report).flatMap payload = reports.flatMap payload := by
  induction reports with
  | nil => rfl
  | cons report rest ih =>
    by_cases idle : payload report = []
    · simpa [isIdle, idle] using ih
    · simpa [isIdle, idle] using ih

/-- The reports of a byte run all have a payload. -/
theorem filter_active_ofBytes (bytes : Bytes) :
    ((ofBytes bytes).filter fun report => !isIdle report) = ofBytes bytes := by
  fun_induction ofBytes bytes with
  | case1 => rfl
  | case2 byte rest ih =>
    have active : isIdle (pack (byte :: rest.take (capacity - 1))) = false := by
      rw [isIdle, payload_first]
      rfl
    rw [List.filter_cons_of_pos (by rw [active]; rfl), ih]

/-- The second reports are the first ones with other upper bits in their first bytes and with idle
reports put in. -/
inductive SameContent : List Bytes → List Bytes → Prop where
  | nil : SameContent [] []
  | header {header other : UInt8} {bytes : Bytes} {reports others : List Bytes} :
      header.toNat % 8 = other.toNat % 8 → SameContent reports others →
      SameContent ((header :: bytes) :: reports) ((other :: bytes) :: others)
  | idle {report : Bytes} {reports others : List Bytes} :
      isIdle report = true → SameContent reports others → SameContent reports (report :: others)

/-! ## Pauses -/

theorem pause_eq (delay : UInt32) :
    pause delay = if delay.toNat ≤ 1 then 400 else delay.toNat * 1000 := by
  have low : delay ≤ 1 ↔ delay.toNat ≤ 1 := UInt32.le_iff_toNat_le
  simp only [pause, low]

theorem pause_mono {shorter longer : UInt32} (le : shorter ≤ longer) :
    pause shorter ≤ pause longer := by
  have le : shorter.toNat ≤ longer.toNat := UInt32.le_iff_toNat_le.mp le
  rw [pause_eq, pause_eq]
  split <;> split <;> omega

theorem pause_bounds {delay : UInt32} {most : Nat} (positive : 1 ≤ most)
    (le : delay.toNat ≤ most) : 400 ≤ pause delay ∧ pause delay ≤ most * 1000 := by
  rw [pause_eq]
  split <;> omega

end UpsMonitor.Report
