import UpsMonitor.Proofs.Word

/-!
# Formulas

Measurements are computed in integers of 16 and 32 bits, which wrap around without notice. A formula
is such a computation as a value. The machine can work it out, it has an exact result among the
natural numbers, rounded down at every division, and the ranges of what goes into it bound every
value on the way. Main statements:

* `toNat_machine`: the machine is exact when every value on the way fits;
* `sound_of_safe`: every value on the way fits when its bounds do.
-/

namespace UpsMonitor

/-- Bounds on a number. -/
structure Span where
  least : Nat
  most : Nat

namespace Span

def Holds (span : Span) (value : Nat) : Prop := span.least ≤ value ∧ value ≤ span.most

@[simp]
def sub (a b : Span) : Span := ⟨a.least - b.most, a.most - b.least⟩

@[simp]
def mul (a b : Span) : Span := ⟨a.least * b.least, a.most * b.most⟩

@[simp]
def div (a b : Span) : Span := ⟨a.least / b.most, a.most / b.least⟩

@[simp]
def mod (b : Span) : Span := ⟨0, b.most - 1⟩

@[simp]
def clip (a : Span) : Span := ⟨min 0xFFFF a.least, min 0xFFFF a.most⟩

variable {a b : Span} {x y : Nat}

theorem Holds.sub (ha : a.Holds x) (hb : b.Holds y) : (a.sub b).Holds (x - y) :=
  ⟨Nat.le_trans (Nat.sub_le_sub_right ha.1 _) (Nat.sub_le_sub_left hb.2 _),
    Nat.le_trans (Nat.sub_le_sub_right ha.2 _) (Nat.sub_le_sub_left hb.1 _)⟩

theorem Holds.mul (ha : a.Holds x) (hb : b.Holds y) : (a.mul b).Holds (x * y) :=
  ⟨Nat.mul_le_mul ha.1 hb.1, Nat.mul_le_mul ha.2 hb.2⟩

theorem Holds.div (positive : 0 < b.least) (ha : a.Holds x) (hb : b.Holds y) :
    (a.div b).Holds (x / y) := by
  have divisor : y ≠ 0 := Nat.ne_of_gt (Nat.lt_of_lt_of_le positive hb.1)
  exact ⟨Nat.div_le_div ha.1 hb.2 divisor, Nat.div_le_div ha.2 hb.1 (Nat.ne_of_gt positive)⟩

theorem Holds.mod (positive : 0 < b.least) (hb : b.Holds y) : b.mod.Holds (x % y) := by
  have small : x % y < y := Nat.mod_lt x (Nat.lt_of_lt_of_le positive hb.1)
  exact ⟨Nat.zero_le _, Nat.le_sub_one_of_lt (Nat.lt_of_lt_of_le small hb.2)⟩

theorem Holds.clip (ha : a.Holds x) : a.clip.Holds (min 0xFFFF x) := by
  obtain ⟨least, most⟩ := ha
  constructor
  · change min 0xFFFF a.least ≤ min 0xFFFF x
    omega
  · change min 0xFFFF x ≤ min 0xFFFF a.most
    omega

end Span

/-- A number that goes into a formula, as the machine holds it, with bounds known beforehand. -/
structure Operand (bits : Nat) where
  held : BitVec bits
  value : Nat
  span : Span
  holds : held.toNat = value
  within : span.Holds value

namespace Operand

def byte (value : UInt8) : Operand 16 where
  held := value.toUInt16.toBitVec
  value := value.toNat
  span := ⟨0, 0xFF⟩
  holds := UInt8.toNat_toUInt16 value
  within := ⟨Nat.zero_le _, Nat.le_of_lt_succ value.toNat_lt⟩

def wideByte (value : UInt8) : Operand 32 where
  held := value.toUInt32.toBitVec
  value := value.toNat
  span := ⟨0, 0xFF⟩
  holds := UInt8.toNat_toUInt32 value
  within := ⟨Nat.zero_le _, Nat.le_of_lt_succ value.toNat_lt⟩

/-- The same number with better bounds. -/
def narrow {bits : Nat} (operand : Operand bits) (least most : Nat)
    (above : least ≤ operand.value) (below : operand.value ≤ most) : Operand bits :=
  { operand with span := ⟨least, most⟩, within := ⟨above, below⟩ }

def nonzero (value : UInt8) (present : value ≠ 0) : Operand 32 :=
  have positive : 0 < value.toNat :=
    Nat.pos_of_ne_zero fun zero => present (UInt8.toNat_inj.mp zero)
  (wideByte value).narrow 1 0xFF positive (wideByte value).within.2

@[simp]
theorem span_byte (value : UInt8) : (byte value).span = ⟨0, 0xFF⟩ := rfl

@[simp]
theorem span_wideByte (value : UInt8) : (wideByte value).span = ⟨0, 0xFF⟩ := rfl

@[simp]
theorem span_nonzero (value : UInt8) (present : value ≠ 0) :
    (nonzero value present).span = ⟨1, 0xFF⟩ := rfl

@[simp]
theorem span_narrow {bits : Nat} (operand : Operand bits) (least most : Nat)
    (above : least ≤ operand.value) (below : operand.value ≤ most) :
    (operand.narrow least most above below).span = ⟨least, most⟩ := rfl

end Operand

/-- Computations in unsigned integers of some width. -/
inductive Formula : Nat → Type
  | given {bits : Nat} (operand : Operand bits) : Formula bits
  | constant {bits : Nat} (value : Nat) : Formula bits
  | sub {bits : Nat} (f g : Formula bits) : Formula bits
  | mul {bits : Nat} (f g : Formula bits) : Formula bits
  | div {bits : Nat} (f g : Formula bits) : Formula bits
  | mod {bits : Nat} (f g : Formula bits) : Formula bits
  | wide (f : Formula 16) : Formula 32
  | clip (f : Formula 32) : Formula 16

namespace Formula

variable {bits : Nat}

instance (n : Nat) : OfNat (Formula bits) n := ⟨constant n⟩

instance : Sub (Formula bits) := ⟨sub⟩

instance : Mul (Formula bits) := ⟨mul⟩

instance : Div (Formula bits) := ⟨div⟩

instance : Mod (Formula bits) := ⟨mod⟩

section Written

variable (f g : Formula bits)

@[simp]
theorem ofNat_eq (n : Nat) : (OfNat.ofNat n : Formula bits) = constant n := rfl

@[simp]
theorem sub_eq : f - g = f.sub g := rfl

@[simp]
theorem mul_eq : f * g = f.mul g := rfl

@[simp]
theorem div_eq : f / g = f.div g := rfl

@[simp]
theorem mod_eq : f % g = f.mod g := rfl

end Written

/-- What the machine makes of a formula. -/
def machine : {bits : Nat} → Formula bits → BitVec bits
  | _, given operand => operand.held
  | bits, constant value => .ofNat bits value
  | _, sub f g => f.machine - g.machine
  | _, mul f g => f.machine * g.machine
  | _, div f g => f.machine / g.machine
  | _, mod f g => f.machine % g.machine
  | _, wide f => (UInt16.ofBitVec f.machine).toUInt32.toBitVec
  | _, clip f => (Word.clip (.ofBitVec f.machine)).toBitVec

/-- The result over the natural numbers, where only clipping takes anything away. -/
def exact : {bits : Nat} → Formula bits → Nat
  | _, given operand => operand.value
  | _, constant value => value
  | _, sub f g => f.exact - g.exact
  | _, mul f g => f.exact * g.exact
  | _, div f g => f.exact / g.exact
  | _, mod f g => f.exact % g.exact
  | _, wide f => f.exact
  | _, clip f => min 0xFFFF f.exact

/-- No value on the way is too large for its integers, nothing larger is taken from anything, and
nothing is divided by zero. -/
def Fits : {bits : Nat} → Formula bits → Prop
  | _, given _ => True
  | bits, constant value => value < 2 ^ bits
  | _, sub f g => f.Fits ∧ g.Fits ∧ g.exact ≤ f.exact
  | bits, mul f g => f.Fits ∧ g.Fits ∧ f.exact * g.exact < 2 ^ bits
  | _, div f g => f.Fits ∧ g.Fits ∧ g.exact ≠ 0
  | _, mod f g => f.Fits ∧ g.Fits ∧ g.exact ≠ 0
  | _, wide f => f.Fits
  | _, clip f => f.Fits

/-- The machine is exact when everything fits. -/
theorem toNat_machine {f : Formula bits} (fits : f.Fits) : f.machine.toNat = f.exact := by
  -- only a difference and a product can wrap around, so only they need what is said of their result
  induction f with
  | given operand => exact operand.holds
  | constant value => exact Nat.mod_eq_of_lt fits
  | sub f g ihf ihg =>
    obtain ⟨left, right, enough⟩ := fits
    rw [← ihf left, ← ihg right] at enough
    rw [machine, BitVec.toNat_sub_of_le enough, ihf left, ihg right, exact]
  | mul f g ihf ihg =>
    obtain ⟨left, right, small⟩ := fits
    rw [machine, BitVec.toNat_mul, ihf left, ihg right, Nat.mod_eq_of_lt small, exact]
  | div f g ihf ihg => rw [machine, BitVec.toNat_udiv, ihf fits.1, ihg fits.2.1, exact]
  | mod f g ihf ihg => rw [machine, BitVec.toNat_umod, ihf fits.1, ihg fits.2.1, exact]
  | wide f ih =>
    rw [exact, ← ih fits]
    exact UInt16.toNat_toUInt32 (.ofBitVec f.machine)
  | clip f ih =>
    rw [exact, ← ih fits]
    exact Word.toNat_clip (.ofBitVec f.machine)

example : ((40000 : Formula 16) * 2).machine.toNat = 14464 ∧
    ((40000 : Formula 16) * 2).exact = 80000 := by
  decide

/-- The bounds of a result that follow from the bounds of what goes into it. -/
@[simp]
def span : {bits : Nat} → Formula bits → Span
  | _, given operand => operand.span
  | _, constant value => ⟨value, value⟩
  | _, sub f g => f.span.sub g.span
  | _, mul f g => f.span.mul g.span
  | _, div f g => f.span.div g.span
  | _, mod _ g => g.span.mod
  | _, wide f => f.span
  | _, clip f => f.span.clip

/-- The bounds alone show that everything fits. -/
@[simp]
def Safe : {bits : Nat} → Formula bits → Prop
  | _, given _ => True
  | bits, constant value => value < 2 ^ bits
  | _, sub f g => f.Safe ∧ g.Safe ∧ g.span.most ≤ f.span.least
  | bits, mul f g => f.Safe ∧ g.Safe ∧ f.span.most * g.span.most < 2 ^ bits
  | _, div f g => f.Safe ∧ g.Safe ∧ 0 < g.span.least
  | _, mod f g => f.Safe ∧ g.Safe ∧ 0 < g.span.least
  | _, wide f => f.Safe
  | _, clip f => f.Safe

/-- Everything in a formula whose bounds are safe fits, and the result is within its bounds. -/
theorem sound_of_safe {f : Formula bits} (safe : f.Safe) : f.Fits ∧ f.span.Holds f.exact := by
  -- that results are within their bounds carries the induction
  induction f with
  | given operand => exact ⟨trivial, operand.within⟩
  | constant value => exact ⟨safe, Nat.le_refl _, Nat.le_refl _⟩
  | sub f g ihf ihg =>
    obtain ⟨left, right, apart⟩ := safe
    obtain ⟨fits, inside⟩ := ihf left
    obtain ⟨fits', inside'⟩ := ihg right
    have enough : g.exact ≤ f.exact := Nat.le_trans inside'.2 (Nat.le_trans apart inside.1)
    exact ⟨⟨fits, fits', enough⟩, inside.sub inside'⟩
  | mul f g ihf ihg =>
    obtain ⟨left, right, small⟩ := safe
    obtain ⟨fits, inside⟩ := ihf left
    obtain ⟨fits', inside'⟩ := ihg right
    have product := inside.mul inside'
    exact ⟨⟨fits, fits', Nat.lt_of_le_of_lt product.2 small⟩, product⟩
  | div f g ihf ihg =>
    obtain ⟨left, right, positive⟩ := safe
    obtain ⟨fits, inside⟩ := ihf left
    obtain ⟨fits', inside'⟩ := ihg right
    have divisor : 0 < g.exact := Nat.lt_of_lt_of_le positive inside'.1
    exact ⟨⟨fits, fits', Nat.ne_of_gt divisor⟩, inside.div positive inside'⟩
  | mod f g ihf ihg =>
    obtain ⟨left, right, positive⟩ := safe
    obtain ⟨fits, -⟩ := ihf left
    obtain ⟨fits', inside'⟩ := ihg right
    have divisor : 0 < g.exact := Nat.lt_of_lt_of_le positive inside'.1
    exact ⟨⟨fits, fits', Nat.ne_of_gt divisor⟩, inside'.mod positive⟩
  | wide f ih => exact ih safe
  | clip f ih =>
    obtain ⟨fits, inside⟩ := ih safe
    exact ⟨fits, inside.clip⟩

end Formula

end UpsMonitor
