import Mathlib.Algebra.Group.Nat.Defs
import UpsMonitor.Telemetry.Recorder

/-!
# The order of file names

Telemetry files are told apart and put in order by their names alone. Main statements:

* `digits_lt_digits`: numbers in a fixed width are in order as texts;
* `padded_eq_digits`: a number that fits its width is written in exactly that width;
* `fileName_lt_fileName`: of two files, the one begun at a later stamp, or at the same stamp with a
  greater number, has the later name;
* `isTelemetryName_fileName`: each counts as a telemetry file.
-/

namespace UpsMonitor.Telemetry

/-! ## Texts in order -/

/-- Texts of one length are in order whatever stands behind them. -/
theorem append_lt_append_of_lt {front other : List Char} (rest more : List Char)
    (same : front.length = other.length) (lt : front < other) : front ++ rest < other ++ more := by
  induction front generalizing other with
  | nil =>
    cases other with
    | nil => exact absurd lt (List.lt_irrefl [])
    | cons => cases same
  | cons first front ih =>
    cases other with
    | nil => cases same
    | cons second other =>
      rw [List.cons_append, List.cons_append, List.cons_lt_cons_iff]
      rcases List.cons_lt_cons_iff.mp lt with first_lt | ⟨eq, rest_lt⟩
      · exact .inl first_lt
      · exact .inr ⟨eq, ih (Nat.succ.inj same) rest_lt⟩

theorem digit_lt_digit {a b : Nat} (lt : a < b) (fits : b < 10) :
    Char.ofNat (48 + a) < Char.ofNat (48 + b) := by
  have all : ∀ b < 10, ∀ a < b, Char.ofNat (48 + a) < Char.ofNat (48 + b) := by decide
  exact all b fits a lt

/-- **In a fixed width numbers are in order as texts.** -/
theorem digits_lt_digits {width a b : Nat} (lt : a < b) (fits : b < 10 ^ width) :
    digits width a < digits width b := by
  induction width generalizing a b with
  | zero => omega
  | succ width ih =>
    have bound : b / 10 < 10 ^ width := by
      rw [Nat.pow_succ] at fits
      omega
    unfold digits
    rcases Nat.lt_or_ge (a / 10) (b / 10) with higher | level
    · exact append_lt_append_of_lt _ _ (by simp) (ih higher bound)
    · have same : a / 10 = b / 10 := by omega
      rw [same]
      apply List.append_left_lt
      exact List.cons_lt_cons_iff.mpr (.inl (digit_lt_digit (by omega) (by omega)))

/-! ## Numbers in at least so many digits -/

theorem digits_zero (width : Nat) : digits width 0 = List.replicate width '0' := by
  induction width with
  | zero => rfl
  | succ width ih => rw [digits, ih, List.replicate_succ']

theorem toList_pushn (text : String) (c : Char) (count : Nat) :
    (text.pushn c count).toList = text.toList ++ List.replicate count c := by
  rw [String.pushn_eq_repeat_push]
  induction count with
  | zero => simp [Nat.repeat]
  | succ count ih =>
    rw [Nat.repeat, String.toList_push, ih, List.append_assoc, List.replicate_succ']

theorem digitChar_eq {value : Nat} (small : value < 10) :
    value.digitChar = Char.ofNat (48 + value) := by
  have all : ∀ value < 10, value.digitChar = Char.ofNat (48 + value) := by decide
  exact all value small

/-- The decimal digits of a number, with zeros in front of them up to the width. -/
theorem zeros_toDigits {width value : Nat} (fits : value < 10 ^ (width + 1)) :
    (Nat.toDigits 10 value).length ≤ width + 1 ∧
      List.replicate (width + 1 - (Nat.toDigits 10 value).length) '0' ++ Nat.toDigits 10 value =
        digits (width + 1) value := by
  induction width generalizing value with
  | zero =>
    have small : value < 10 := fits
    rw [Nat.toDigits_of_lt_base small, digitChar_eq small]
    simp [digits, Nat.mod_eq_of_lt small]
  | succ width ih =>
    rcases Nat.lt_or_ge value 10 with small | large
    · have none_higher : value / 10 = 0 := by omega
      rw [Nat.toDigits_of_lt_base small, digitChar_eq small, digits, none_higher, digits_zero,
        Nat.mod_eq_of_lt small]
      exact ⟨by simp, rfl⟩
    · have higher : value / 10 < 10 ^ (width + 1) := by
        rw [Nat.pow_succ] at fits
        omega
      obtain ⟨short, same⟩ := ih higher
      rw [Nat.toDigits_of_base_le (by decide) large, digits, ← same,
        digitChar_eq (Nat.mod_lt _ (by decide))]
      simp only [List.length_append, List.length_singleton, List.append_assoc]
      refine ⟨by omega, ?_⟩
      congr 2
      omega

/-- **A number that fits its width is written in exactly that width.** -/
theorem padded_eq_digits {width value : Nat} (fits : value < 10 ^ (width + 1)) :
    (padded (width + 1) value).toList = digits (width + 1) value := by
  have text : (toString value).toList = Nat.toDigits 10 value := by
    rw [Nat.toString_eq_repr, Nat.repr_eq_ofList_toDigits, String.toList_ofList]
  rw [padded, String.toList_append, toList_pushn, ← String.length_toList, text,
    ← (zeros_toDigits fits).2]
  rfl

/-! ## File names -/

theorem length_stamp (time : LocalTime) : time.stamp.toList.length = 15 := by
  simp [LocalTime.stamp]

theorem toList_fileName (time : LocalTime) (number : Nat) :
    (fileName time number).toList =
      "ups_".toList ++
        (time.stamp.toList ++ ('_' :: (padded 4 number).toList ++ ".jsonl".toList)) := by
  simp [fileName]

/-- **File names are in order** by stamp and then by number, while numbers have four digits. -/
theorem fileName_lt_fileName {earlier later : LocalTime} {a b : Nat}
    (ordered : earlier.stamp ≤ later.stamp) (lt : a < b) (fits : b < 10000) :
    fileName earlier a < fileName later b := by
  rw [String.lt_iff, toList_fileName, toList_fileName]
  apply List.append_left_lt
  by_cases same : earlier.stamp = later.stamp
  · have numbers : (padded 4 a).toList < (padded 4 b).toList := by
      rw [padded_eq_digits (show a < 10 ^ 4 by omega), padded_eq_digits fits]
      exact digits_lt_digits lt fits
    have level : (padded 4 a).toList.length = (padded 4 b).toList.length := by
      rw [padded_eq_digits (show a < 10 ^ 4 by omega), padded_eq_digits fits, length_digits,
        length_digits]
    rw [same]
    apply List.append_left_lt
    exact append_lt_append_of_lt _ _ (congrArg Nat.succ level)
      (List.cons_lt_cons_iff.mpr (.inr ⟨rfl, numbers⟩))
  · have before : earlier.stamp < later.stamp := Std.lt_of_le_of_ne ordered same
    exact append_lt_append_of_lt _ _ (by rw [length_stamp, length_stamp]) (String.lt_iff.mp before)

theorem isTelemetryName_fileName (time : LocalTime) (number : Nat) :
    isTelemetryName (fileName time number) = true := by
  unfold isTelemetryName
  rw [toList_fileName, Bool.and_eq_true, List.isPrefixOf_iff_prefix, List.isSuffixOf_iff_suffix]
  refine ⟨List.prefix_append _ _, ?_⟩
  rw [← List.append_assoc, ← List.append_assoc]
  exact List.suffix_append _ _

end UpsMonitor.Telemetry
