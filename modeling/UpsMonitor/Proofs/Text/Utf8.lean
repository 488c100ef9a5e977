import Mathlib.Algebra.Group.Nat.Defs
import UpsMonitor.Protocol

/-!
# Texts in UTF-8

A code point is written as a first byte, which begins higher the more bytes there are, and behind it
in bytes of six bits each. Main statement:

* `encode_lt_encode`: texts are in the same order by byte as they are by code point.
-/

namespace UpsMonitor.Text.Utf8

/-- The bytes of a text. -/
def encode (text : String) : Bytes := text.toUTF8.data.toList

theorem encode_eq (text : String) : encode text = text.toList.flatMap String.utf8EncodeChar := by
  rw [encode, String.toUTF8_eq_toByteArray, ← String.utf8Encode_toList, List.utf8Encode,
    List.toList_data_toByteArray]

/-! ## Code points -/

/-- How many bytes follow the first. -/
def following (point : Nat) : Nat :=
  if point ≤ 0x7F then 0 else if point ≤ 0x7FF then 1 else if point ≤ 0xFFFF then 2 else 3

/-- Where the first byte begins if so many follow it. -/
def mark : Nat → Nat
  | 0 => 0
  | 1 => 0xC0
  | 2 => 0xE0
  | 3 => 0xF0
  | _ => 0xF8

/-- The first byte carries what the others leave. -/
def lead (point : Nat) : Nat := mark (following point) + point / 64 ^ following point

/-- The bytes behind the first: the lowest digits in base 64, the highest of them first. -/
def trail : Nat → Nat → Bytes
  | 0, _ => []
  | count + 1, point => trail count (point / 64) ++ [.ofNat (0x80 + point % 64)]

theorem following_cases (point : Nat) :
    (point ≤ 0x7F ∧ following point = 0) ∨
    (0x7F < point ∧ point ≤ 0x7FF ∧ following point = 1) ∨
    (0x7FF < point ∧ point ≤ 0xFFFF ∧ following point = 2) ∨
    (0xFFFF < point ∧ following point = 3) := by
  unfold following
  split
  · omega
  · split
    · omega
    · split <;> omega

theorem toNat_lt (c : Char) : c.val.toNat < 0x110000 := by
  rcases c.valid with low | high
  · exact Nat.lt_trans low (by decide)
  · exact high.2

theorem utf8EncodeChar_eq (c : Char) :
    String.utf8EncodeChar c =
      .ofNat (lead c.val.toNat) :: trail (following c.val.toNat) c.val.toNat := by
  have bound := toNat_lt c
  unfold String.utf8EncodeChar
  generalize c.val.toNat = point at bound
  dsimp only
  rcases following_cases point with
    ⟨most, count⟩ | ⟨least, most, count⟩ | ⟨least, most, count⟩ | ⟨least, count⟩
  · have first : lead point = point := by
      simp only [lead, count, mark]
      omega
    rw [if_pos most, first, count, trail]
  · have first : lead point = point / 64 % 0x20 + 0xC0 := by
      simp only [lead, count, mark]
      omega
    rw [if_neg (by omega), if_pos most, first, count]
    simp [trail, Nat.add_comm]
  · have first : lead point = point / 4096 % 0x10 + 0xE0 := by
      simp only [lead, count, mark]
      omega
    rw [if_neg (by omega), if_neg (by omega), if_pos most, first, count]
    simp [trail, Nat.add_comm]
  · have first : lead point = point / 262144 % 0x08 + 0xF0 := by
      simp only [lead, count, mark]
      omega
    rw [if_neg (by omega), if_neg (by omega), if_neg (by omega), first, count]
    simp [trail, Nat.add_comm, Nat.div_div_eq_div_mul]

/-- So many bytes behind the first keep it below the mark of those with more. -/
theorem lead_lt_mark {point : Nat} (bound : point < 0x110000) :
    lead point < mark (following point + 1) := by
  rcases following_cases point with
    ⟨most, count⟩ | ⟨least, most, count⟩ | ⟨least, most, count⟩ | ⟨least, count⟩
  all_goals
    simp only [lead, count, mark]
    omega

theorem mark_mono {count more : Nat} (le : count ≤ more) (most : more ≤ 3) :
    mark count ≤ mark more := by
  have all : ∀ more ≤ 3, ∀ count ≤ more, mark count ≤ mark more := by decide
  exact all more most count le

theorem following_mono {lower higher : Nat} (lt : lower < higher) :
    following lower ≤ following higher := by
  have low := following_cases lower
  have high := following_cases higher
  omega

theorem following_le (point : Nat) : following point ≤ 3 := by
  have := following_cases point
  omega

/-- The first byte is one. -/
theorem lead_lt {point : Nat} (bound : point < 0x110000) : lead point < 2 ^ 8 := by
  have most : mark (following point + 1) ≤ 0xF8 := by
    have all : ∀ count ≤ 3, mark (count + 1) ≤ 0xF8 := by decide
    exact all _ (following_le point)
  have below := lead_lt_mark bound
  omega

/-- The first bytes are in the order of the code points, unless they leave it to the others. -/
theorem lead_lt_or {lower higher : Nat} (lt : lower < higher) (bound : higher < 0x110000) :
    lead lower < lead higher ∨ lead lower = lead higher ∧ following lower = following higher ∧
      lower / 64 ^ following lower = higher / 64 ^ following lower := by
  by_cases alike : following lower = following higher
  · have le : lower / 64 ^ following lower ≤ higher / 64 ^ following lower :=
      Nat.div_le_div_right (Nat.le_of_lt lt)
    unfold lead
    rw [← alike]
    omega
  · left
    have fewer : following lower + 1 ≤ following higher :=
      Nat.lt_of_le_of_ne (following_mono lt) alike
    calc lead lower
      _ < mark (following lower + 1) := lead_lt_mark (Nat.lt_trans lt bound)
      _ ≤ mark (following higher) := mark_mono fewer (following_le higher)
      _ ≤ lead higher := Nat.le_add_right ..

/-- The bytes behind the first tell the order of code points that are alike otherwise. -/
theorem trail_lt_trail {count lower higher : Nat} (lt : lower < higher)
    (alike : lower / 64 ^ count = higher / 64 ^ count) (rest rest' : Bytes) :
    trail count lower ++ rest < trail count higher ++ rest' := by
  induction count generalizing lower higher rest rest' with
  | zero => omega
  | succ count ih =>
    have carried : lower / 64 / 64 ^ count = higher / 64 / 64 ^ count := by
      rw [Nat.div_div_eq_div_mul, Nat.div_div_eq_div_mul, ← Nat.pow_succ']
      exact alike
    simp only [trail, List.append_assoc]
    rcases Nat.lt_or_ge (lower / 64) (higher / 64) with earlier | level
    · exact ih earlier carried _ _
    · have level : lower / 64 = higher / 64 := by omega
      rw [level]
      apply List.append_left_lt
      rw [List.singleton_append, List.singleton_append, List.cons_lt_cons_iff]
      left
      rw [UInt8.lt_iff_toNat_lt, UInt8.toNat_ofNat', UInt8.toNat_ofNat']
      omega

theorem utf8EncodeChar_lt {c d : Char} (lt : c < d) (rest rest' : Bytes) :
    String.utf8EncodeChar c ++ rest < String.utf8EncodeChar d ++ rest' := by
  have lt : c.val.toNat < d.val.toNat := lt
  rw [utf8EncodeChar_eq, utf8EncodeChar_eq, List.cons_append, List.cons_append,
    List.cons_lt_cons_iff]
  rcases lead_lt_or lt (toNat_lt d) with before | ⟨same, count, alike⟩
  · left
    rw [UInt8.lt_iff_toNat_lt, UInt8.toNat_ofNat', UInt8.toNat_ofNat',
      Nat.mod_eq_of_lt (lead_lt (toNat_lt c)), Nat.mod_eq_of_lt (lead_lt (toNat_lt d))]
    exact before
  · right
    rw [same, ← count]
    exact ⟨rfl, trail_lt_trail lt alike rest rest'⟩

/-! ## Texts -/

theorem flatMap_lt_flatMap {chars later : List Char} (lt : List.Lex (· < ·) chars later) :
    chars.flatMap String.utf8EncodeChar < later.flatMap String.utf8EncodeChar := by
  induction lt with
  | @nil c rest =>
    rw [List.flatMap_nil, List.flatMap_cons, utf8EncodeChar_eq]
    exact List.nil_lt_cons ..
  | rel lt =>
    rw [List.flatMap_cons, List.flatMap_cons]
    exact utf8EncodeChar_lt lt _ _
  | cons _ ih =>
    rw [List.flatMap_cons, List.flatMap_cons]
    exact List.append_left_lt ih

/-- **Texts are in the same order by byte as they are by code point.** -/
theorem encode_lt_encode {text later : String} (lt : text < later) :
    encode text < encode later := by
  rw [encode_eq, encode_eq]
  exact flatMap_lt_flatMap lt

end UpsMonitor.Text.Utf8
