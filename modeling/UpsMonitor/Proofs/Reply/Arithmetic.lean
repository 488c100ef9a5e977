import UpsMonitor.Proofs.Formula
import UpsMonitor.Reply

/-!
# The arithmetic of SENTRY replies

Every number that a telemetry reply brings, written down as a formula of the bytes of the reply. The
bounds of bytes and words are enough to show that no such formula wraps around, takes the offset for
three phases from less than it, or divides by zero. Main statements:

* `machine_formula`: the formulas are what the decoder computes;
* `safe_formula`: the bounds of all formulas are safe;
* `telemetry_is_exact`: so the numbers that are read are those of the formulas.
-/

namespace UpsMonitor

inductive Phase
  | l1
  | l2
  | l3
  deriving DecidableEq

def Phase.index : Phase → Nat
  | l1 => 0
  | l2 => 1
  | l3 => 2

namespace PerPhase

variable {α β : Type}

def get (values : PerPhase α) : Phase → α
  | .l1 => values.l1
  | .l2 => values.l2
  | .l3 => values.l3

theorem get_map (f : α → β) (values : PerPhase α) (phase : Phase) :
    (values.map f).get phase = f (values.get phase) := by
  cases phase <;> rfl

end PerPhase

namespace Sentry

open Formula (given constant toNat_machine sound_of_safe)

/-! ## What the formulas read -/

section Places

variable (frame : Bytes) (i : Nat)

/-- The byte at a place. Replies are long enough for all places in their formulas. -/
def byteAt : UInt8 := frame.getD i 0

/-- The byte of a phase, where those of other phases stand at a distance. -/
def phaseByte (step : Nat) (phase : Phase) : UInt8 := byteAt frame (i + step * phase.index)

/-- The word at a place, as the number of its two bytes. -/
def operandAt : Operand 16 where
  held := (Word.ofLittleEndian (byteAt frame i) (byteAt frame (i + 1))).toBitVec
  value := (byteAt frame i).toNat + 256 * (byteAt frame (i + 1)).toNat
  span := ⟨0, 0xFFFF⟩
  holds := Word.toNat_ofLittleEndian (byteAt frame i) (byteAt frame (i + 1))
  within := by
    have low := (byteAt frame i).toNat_lt
    have high := (byteAt frame (i + 1)).toNat_lt
    have most : (byteAt frame i).toNat + 256 * (byteAt frame (i + 1)).toNat ≤ 0xFFFF := by omega
    exact ⟨Nat.zero_le _, most⟩

/-- One of three words in a row. -/
def phaseWord (phase : Phase) : Operand 16 := operandAt frame (i + 2 * phase.index)

@[simp]
theorem span_operandAt : (operandAt frame i).span = ⟨0, 0xFFFF⟩ := rfl

@[simp]
theorem span_phaseWord (phase : Phase) : (phaseWord frame i phase).span = ⟨0, 0xFFFF⟩ := rfl

variable {frame i}

theorem byteAt_eq (h : i < frame.length) : byteAt frame i = frame[i] := by
  simp [byteAt, h]

theorem held_operandAt (h : i + 1 < frame.length) :
    (operandAt frame i).held = (wordAt frame i h).toBitVec := by
  rw [wordAt, ← byteAt_eq (by omega), ← byteAt_eq h]
  rfl

theorem get_bytesAt {step : Nat} (h : i + 2 * step < frame.length) (phase : Phase) :
    (bytesAt frame i step h).get phase = phaseByte frame i step phase := by
  cases phase with
  | l1 => exact (byteAt_eq (by omega)).symm
  | l2 =>
    rw [phaseByte, Phase.index, Nat.mul_one]
    exact (byteAt_eq (by omega)).symm
  | l3 =>
    rw [phaseByte, Phase.index, Nat.mul_comm]
    exact (byteAt_eq h).symm

/-- What is made of each byte is made of that of a phase. -/
theorem mapped_bytesAt {step : Nat} (h : i + 2 * step < frame.length) (f : UInt8 → UInt16)
    (phase : Phase) :
    (f (phaseByte frame i step phase)).toBitVec =
      (((bytesAt frame i step h).map f).get phase).toBitVec := by
  rw [PerPhase.get_map, get_bytesAt]

theorem get_wordsAt (h : i + 5 < frame.length) (phase : Phase) :
    ((wordsAt frame i h).get phase).toBitVec = (phaseWord frame i phase).held := by
  cases phase with
  | l1 => exact (held_operandAt (by omega)).symm
  | l2 => exact (held_operandAt (by omega)).symm
  | l3 => exact (held_operandAt (by omega)).symm

end Places

/-! ## Formulas -/

namespace Worksheet

section Models

variable (model : Operand 16)

/-- The model without the offset, which is taken only where there is enough to take it from. -/
def base : Formula 16 :=
  if three : 3000 ≤ model.value then
    given (model.narrow 3000 model.span.most three model.within.2) - 3000
  else
    given (model.narrow model.span.least 2999 model.within.1 (by omega))

def ratedPower : Formula 32 := (base model).wide / 10

def ratedRealPower (nineTenths : Bool) : Formula 32 :=
  ratedPower model * 1000 * (if nineTenths then 9 else 8) / 10 / 1000

def nominalLoad : Formula 32 := (base model).wide * 100

/-- The digit of the model that tells whether it has layouts beyond the basic one. -/
def lastDigit : Formula 16 := base model % 10

def inputCurrent (percent : UInt8) : Formula 16 :=
  (nominalLoad model / 690 * given (.wideByte percent) / 100).clip

/-- A percentage of the nominal current. -/
def share (voltage : UInt8) (present : voltage ≠ 0) (percent : UInt8) : Formula 32 :=
  nominalLoad model / given (.nonzero voltage present) * given (.wideByte percent) / 100

/-- Each of three phases carries a third, and so do the two that a single phase does not have.
Without a voltage there is nothing to divide by. -/
def current (voltage percent : UInt8) (phase : Phase) : Formula 16 :=
  if present : voltage ≠ 0 then
    (if 3000 ≤ model.value ∨ phase ≠ .l1 then share model voltage present percent / 3
      else share model voltage present percent).clip
  else 0

def derated (value : Formula 16) : Formula 16 :=
  if model.value % 8 < 4 then (value.wide * 9 / 10).clip else value

end Models

/-- A digit of the firmware's version. -/
def firmwareDigit (version : Operand 16) (unit : Nat) : Formula 16 :=
  given version / constant unit % 10

def tenth (value : Operand 16) : Formula 16 := given value / 10

def tenfold (value : Formula 16) : Formula 16 := (value.wide * 10).clip

def inputVoltage (percent : UInt8) : Formula 16 := (given (.wideByte percent) * 230 / 100).clip

def outputVoltage (doubled : Bool) (byte : UInt8) : Formula 16 :=
  (given (.wideByte byte) * (if doubled then 2 else 1)).clip

section Replies

variable (level : Extension) (frame : Bytes) (phase : Phase)

def outputCurrent : Formula 16 :=
  derated (operandAt frame 2)
    (current (operandAt frame 2) (byteAt frame 73) (phaseByte frame 62 1 phase) phase)

/-- The long reply has tenths at a place, where the short one has something relative. -/
def electrical (i : Nat) (relative : Formula 16) : Formula 16 :=
  match level with
  | .ext176 => tenth (phaseWord frame i phase)
  | .also240 | .only192 => relative

def bypassVoltage : Formula 16 :=
  match level with
  | .ext176 => tenth (phaseWord frame 129 phase)
  | .also240 => given (.byte (phaseByte frame 51 2 phase)) * 2
  | .only192 => given (phaseWord frame 51 phase)

def peakCurrent : Formula 16 :=
  if 3000 ≤ (operandAt frame 2).value ∨ phase = .l1 then
    given (.byte (phaseByte frame 65 1 phase)) * 3
  else 0

def batteryVoltage : Formula 16 :=
  if level ≠ .only192 ∧ byteAt frame 100 &&& 0x80 = 0 then
    tenfold (given (.byte (min (byteAt frame 43) (byteAt frame 44))) * 2)
  else tenfold (given (operandAt frame 43))

def batteryCurrent : Formula 16 :=
  if byteAt frame 47 = 0 then tenfold (given (operandAt frame 45)) else given (operandAt frame 45)

end Replies

end Worksheet

/-- The numbers that a telemetry reply brings, with the width of the integers that hold them. -/
inductive Quantity : Nat → Type
  | model : Quantity 16
  | nominalPower : Quantity 32
  | nominalRealPower : Quantity 32
  | firmwareCode : Quantity 16
  | inputFrequency : Quantity 16
  | inputVoltage (phase : Phase) : Quantity 16
  | inputCurrent (phase : Phase) : Quantity 16
  | outputVoltage (phase : Phase) : Quantity 16
  | outputCurrent (phase : Phase) : Quantity 16
  | load (phase : Phase) : Quantity 16
  | peakCurrent (phase : Phase) : Quantity 16
  | outputFrequency : Quantity 16
  | runtime : Quantity 16
  | charge : Quantity 16
  | batteryVoltage : Quantity 16
  | batteryCurrent : Quantity 16
  | temperature : Quantity 16
  | batteryCapacity : Quantity 16
  | bypassVoltage (phase : Phase) : Quantity 16
  | bypassFrequency : Quantity 16

namespace Quantity

/-- What a snapshot holds of a quantity. -/
def read (s : Snapshot) : {bits : Nat} → Quantity bits → BitVec bits
  | _, model => s.model.toBitVec
  | _, nominalPower => s.nominalPower.toBitVec
  | _, nominalRealPower => s.nominalRealPower.toBitVec
  | _, firmwareCode => s.firmwareCode.toBitVec
  | _, inputFrequency => s.inputFrequency.toBitVec
  | _, inputVoltage phase => (s.inputVoltage.get phase).toBitVec
  | _, inputCurrent phase => (s.inputCurrent.get phase).toBitVec
  | _, outputVoltage phase => (s.outputVoltage.get phase).toBitVec
  | _, outputCurrent phase => (s.outputCurrent.get phase).toBitVec
  | _, load phase => (s.load.get phase).toBitVec
  | _, peakCurrent phase => (s.peakCurrent.get phase).toBitVec
  | _, outputFrequency => s.outputFrequency.toBitVec
  | _, runtime => s.runtime.toBitVec
  | _, charge => s.charge.toBitVec
  | _, batteryVoltage => s.batteryVoltage.toBitVec
  | _, batteryCurrent => s.batteryCurrent.toBitVec
  | _, temperature => s.temperature.toBitVec
  | _, batteryCapacity => s.batteryCapacity.toBitVec
  | _, bypassVoltage phase => (s.bypassVoltage.get phase).toBitVec
  | _, bypassFrequency => s.bypassFrequency.toBitVec

/-- How a quantity follows from the bytes of a reply. -/
def formula (level : Extension) (frame : Bytes) : {bits : Nat} → Quantity bits → Formula bits
  | _, model => given (operandAt frame 2)
  | _, nominalPower => Worksheet.ratedPower (operandAt frame 2) * 1000
  | _, nominalRealPower =>
    Worksheet.ratedRealPower (operandAt frame 2) (byteAt frame 76 &&& 0x08 != 0) * 1000
  | _, firmwareCode => given (operandAt frame 4)
  | _, inputFrequency => given (operandAt frame 41)
  | _, inputVoltage phase => Worksheet.electrical level frame phase 117
      (Worksheet.inputVoltage (phaseByte frame 35 1 phase))
  | _, inputCurrent phase => Worksheet.electrical level frame phase 123
      (Worksheet.inputCurrent (operandAt frame 2) (phaseByte frame 38 1 phase))
  | _, outputVoltage phase => Worksheet.electrical level frame phase 135
      (Worksheet.outputVoltage (byteAt frame 79 &&& 0x80 != 0) (phaseByte frame 59 1 phase))
  | _, outputCurrent phase => Worksheet.electrical level frame phase 141
      (Worksheet.outputCurrent frame phase)
  | _, load phase => given (.byte (phaseByte frame 62 1 phase))
  | _, peakCurrent phase => Worksheet.peakCurrent frame phase
  | _, outputFrequency => given (operandAt frame 68)
  | _, runtime => given (operandAt frame 6)
  | _, charge => given (.byte (byteAt frame 8))
  | _, batteryVoltage => Worksheet.batteryVoltage level frame
  | _, batteryCurrent => Worksheet.batteryCurrent frame
  | _, temperature => given (.byte (byteAt frame 48))
  | _, batteryCapacity => given (operandAt frame 74)
  | _, bypassVoltage phase => Worksheet.bypassVoltage level frame phase
  | _, bypassFrequency => given (operandAt frame 57)

end Quantity

/-! ## The formulas are computed -/

namespace Worksheet

section Models

-- a formula of the model is compared with what the decoder makes of the word it holds
variable {model : Operand 16} {word : UInt16} (held : model.held = word.toBitVec)

include held

theorem toNat_eq : word.toNat = model.value := by
  rw [← model.holds, held]
  rfl

theorem isThreePhase_iff : isThreePhase word = true ↔ 3000 ≤ model.value := by
  rw [isThreePhase, decide_eq_true_eq, UInt16.le_iff_toNat_le, toNat_eq held]
  rfl

theorem machine_base : (base model).machine = (baseModel word).toBitVec := by
  unfold base baseModel
  split
  · next three =>
    rw [if_pos ((isThreePhase_iff held).mpr three)]
    exact congrArg (· - 3000#16) held
  · next single =>
    rw [if_neg fun three => single ((isThreePhase_iff held).mp three)]
    exact held

theorem machine_ratedPower : (ratedPower model).machine = (Sentry.ratedPower word).toBitVec :=
  congrArg (fun base => ((UInt16.ofBitVec base).toUInt32 / 10).toBitVec) (machine_base held)

theorem machine_ratedRealPower (nineTenths : Bool) :
    (ratedRealPower model nineTenths).machine =
      (Sentry.ratedRealPower word nineTenths).toBitVec := by
  have rated := machine_ratedPower held
  cases nineTenths with
  | false =>
    exact congrArg (fun power => (UInt32.ofBitVec power * 1000 * 8 / 10 / 1000).toBitVec) rated
  | true =>
    exact congrArg (fun power => (UInt32.ofBitVec power * 1000 * 9 / 10 / 1000).toBitVec) rated

theorem machine_nominalLoad : (nominalLoad model).machine = (Sentry.nominalLoad word).toBitVec :=
  congrArg (fun base => ((UInt16.ofBitVec base).toUInt32 * 100).toBitVec) (machine_base held)

theorem machine_inputCurrent (percent : UInt8) :
    (inputCurrent model percent).machine =
      (Word.clip (Sentry.nominalLoad word / 690 * percent.toUInt32 / 100)).toBitVec :=
  congrArg (fun load => (Word.clip (UInt32.ofBitVec load / 690 * percent.toUInt32 / 100)).toBitVec)
    (machine_nominalLoad held)

theorem machine_share {voltage : UInt8} (present : voltage ≠ 0) (percent : UInt8) :
    (share model voltage present percent).machine =
      (Sentry.nominalLoad word / voltage.toUInt32 * percent.toUInt32 / 100).toBitVec :=
  congrArg (fun load => (UInt32.ofBitVec load / voltage.toUInt32 * percent.toUInt32 / 100).toBitVec)
    (machine_nominalLoad held)

theorem machine_current (voltage : UInt8) (load : PerPhase UInt8) (phase : Phase) :
    (current model voltage (load.get phase) phase).machine =
      ((currentShares word voltage load).get phase).toBitVec := by
  unfold current currentShares
  split
  · next present =>
    have third (percent : UInt8) := congrArg (fun share =>
      (Word.clip (UInt32.ofBitVec share / 3)).toBitVec) (machine_share held present percent)
    have whole (percent : UInt8) := congrArg (fun share =>
      (Word.clip (UInt32.ofBitVec share)).toBitVec) (machine_share held present percent)
    cases phase with
    | l1 =>
      simp only [← isThreePhase_iff held]
      cases isThreePhase word with
      | false => exact whole load.l1
      | true => exact third load.l1
    | l2 =>
      rw [if_pos (.inr (by decide))]
      exact third load.l2
    | l3 =>
      rw [if_pos (.inr (by decide))]
      exact third load.l3
  · next absent =>
    rw [if_pos (Decidable.not_not.mp absent)]
    cases phase <;> rfl

theorem machine_derated {value : Formula 16} {undiminished : UInt16}
    (same : value.machine = undiminished.toBitVec) :
    (derated model value).machine = (derate word undiminished).toBitVec := by
  have rest : (word &&& 0x0007).toNat = model.value % 8 := by
    rw [UInt16.toNat_and, toNat_eq held]
    exact Nat.and_two_pow_sub_one_eq_mod model.value 3
  have low_iff : word &&& 0x0007 < 4 ↔ model.value % 8 < 4 := by
    rw [UInt16.lt_iff_toNat_lt, rest]
    rfl
  rw [derated, derate]
  by_cases low : model.value % 8 < 4
  · rw [if_pos low, if_pos (low_iff.mpr low)]
    exact congrArg (fun value => (Word.clip ((UInt16.ofBitVec value).toUInt32 * 9 / 10)).toBitVec)
      same
  · rw [if_neg low, if_neg (mt low_iff.mp low)]
    exact same

end Models

theorem machine_outputVoltage (doubled : Bool) (byte : UInt8) :
    (outputVoltage doubled byte).machine =
      (Word.clip (byte.toUInt32 * (if doubled then 2 else 1))).toBitVec := by
  cases doubled <;> rfl

section Replies

variable {frame : Bytes}

theorem machine_tenth {i : Nat} (h : i + 5 < frame.length) (phase : Phase) :
    (tenth (phaseWord frame i phase)).machine =
      (((wordsAt frame i h).map (· / 10)).get phase).toBitVec := by
  rw [PerPhase.get_map]
  exact congrArg (· / 10#16) (get_wordsAt h phase).symm

theorem machine_outputCurrent (h : 103 ≤ frame.length) (phase : Phase) :
    (outputCurrent frame phase).machine =
      ((relativeElectrical frame h).outputCurrent.get phase).toBitVec := by
  have model : (operandAt frame 2).held = _ := held_operandAt (by omega)
  have undiminished := machine_current model (byteAt frame 73)
    (bytesAt frame 62 1 (by omega)) phase
  rw [get_bytesAt] at undiminished
  refine (machine_derated model undiminished).trans ?_
  rw [byteAt_eq (by omega), relativeElectrical, PerPhase.get_map]

theorem machine_bypassVoltage {level : Extension} (h : level.replyLength ≤ frame.length)
    (phase : Phase) :
    (bypassVoltage level frame phase).machine =
      ((Sentry.bypassVoltage level frame h).get phase).toBitVec := by
  cases level with
  | ext176 =>
    have long : 164 ≤ frame.length := h
    exact machine_tenth (by omega) phase
  | also240 =>
    have long : 103 ≤ frame.length := h
    exact mapped_bytesAt (by omega) (·.toUInt16 * 2) phase
  | only192 =>
    have long : 103 ≤ frame.length := h
    exact (get_wordsAt (by omega) phase).symm

theorem machine_batteryVoltage (level : Extension) (h : 103 ≤ frame.length) :
    (batteryVoltage level frame).machine = (Sentry.batteryVoltage level frame h).toBitVec := by
  unfold batteryVoltage Sentry.batteryVoltage
  rw [byteAt_eq (by omega), byteAt_eq (by omega), byteAt_eq (by omega)]
  split
  · rfl
  · exact congrArg (fun value => (Sentry.tenfold (.ofBitVec value)).toBitVec)
      (held_operandAt (by omega))

variable {level : Extension} (h : level.replyLength ≤ frame.length) (s : Snapshot)

theorem machine_peakCurrent (phase : Phase) :
    (peakCurrent frame phase).machine =
      ((apply level frame h s).peakCurrent.get phase).toBitVec := by
  have long : 103 ≤ frame.length := Nat.le_trans level.le_replyLength h
  have model : (operandAt frame 2).held = _ := held_operandAt (by omega)
  have read : (apply level frame h s).peakCurrent =
      if isThreePhase (wordAt frame 2 (by omega)) then
        (bytesAt frame 65 1 (by omega)).map fun b => b.toUInt16 * 3
      else ⟨frame[65].toUInt16 * 3, 0, 0⟩ := rfl
  rw [read, peakCurrent]
  by_cases three : 3000 ≤ (operandAt frame 2).value
  · rw [if_pos (.inl three), if_pos ((isThreePhase_iff model).mpr three), ← mapped_bytesAt]
    rfl
  · rw [if_neg (mt (isThreePhase_iff model).mp three)]
    cases phase with
    | l1 =>
      have first : byteAt frame 65 = frame[65] := byteAt_eq (by omega)
      rw [if_pos (.inr rfl)]
      exact congrArg (fun byte : UInt8 => (byte.toUInt16 * 3).toBitVec) first
    | l2 | l3 =>
      rw [if_neg (by simp [three])]
      rfl

theorem machine_batteryCurrent :
    (batteryCurrent frame).machine = (apply level frame h s).batteryCurrent.toBitVec := by
  have long : 103 ≤ frame.length := Nat.le_trans level.le_replyLength h
  have held : (operandAt frame 45).held = _ := held_operandAt (by omega)
  unfold batteryCurrent apply
  rw [byteAt_eq (by omega)]
  split
  · exact congrArg (fun value => (Sentry.tenfold (.ofBitVec value)).toBitVec) held
  · exact held

end Replies

end Worksheet

/-- What the decoder lays over a snapshot is what the machine makes of the formulas. -/
theorem Quantity.machine_formula {level : Extension} {frame : Bytes}
    (h : level.replyLength ≤ frame.length) (s : Snapshot) {bits : Nat} (quantity : Quantity bits) :
    (quantity.formula level frame).machine = quantity.read (apply level frame h s) := by
  have long : 103 ≤ frame.length := Nat.le_trans level.le_replyLength h
  have code : (operandAt frame 2).held = _ := held_operandAt (by omega)
  cases quantity with
  | model | firmwareCode | inputFrequency | outputFrequency | runtime | batteryCapacity
  | bypassFrequency => exact held_operandAt (by omega)
  | charge | temperature =>
    exact congrArg (fun byte : UInt8 => byte.toUInt16.toBitVec) (byteAt_eq (by omega))
  | nominalPower =>
    have rated := Worksheet.machine_ratedPower code
    exact congrArg (fun power => (UInt32.ofBitVec power * 1000).toBitVec) rated
  | nominalRealPower =>
    have rated := Worksheet.machine_ratedRealPower code (frame[76] &&& 0x08 != 0)
    rw [formula, byteAt_eq (by omega)]
    exact congrArg (fun power => (UInt32.ofBitVec power * 1000).toBitVec) rated
  | inputVoltage phase =>
    cases level with
    | ext176 => exact Worksheet.machine_tenth _ phase
    | also240 | only192 =>
      exact mapped_bytesAt _ (fun byte => Word.clip (byte.toUInt32 * 230 / 100)) phase
  | inputCurrent phase =>
    cases level with
    | ext176 => exact Worksheet.machine_tenth _ phase
    | also240 | only192 =>
      refine (Worksheet.machine_inputCurrent code _).trans ?_
      exact mapped_bytesAt _
        (fun byte => Word.clip (nominalLoad (wordAt frame 2 _) / 690 * byte.toUInt32 / 100)) phase
  | outputVoltage phase =>
    cases level with
    | ext176 => exact Worksheet.machine_tenth _ phase
    | also240 | only192 =>
      rw [formula, byteAt_eq (by omega)]
      refine (Worksheet.machine_outputVoltage _ _).trans ?_
      exact mapped_bytesAt _ (fun byte =>
        Word.clip (byte.toUInt32 * if frame[79] &&& 0x80 != 0 then 2 else 1)) phase
  | outputCurrent phase =>
    cases level with
    | ext176 => exact Worksheet.machine_tenth _ phase
    | also240 | only192 => exact Worksheet.machine_outputCurrent long phase
  | load phase => exact mapped_bytesAt _ (·.toUInt16) phase
  | peakCurrent phase => exact Worksheet.machine_peakCurrent h s phase
  | batteryVoltage => exact Worksheet.machine_batteryVoltage level long
  | batteryCurrent => exact Worksheet.machine_batteryCurrent h s
  | bypassVoltage phase => exact Worksheet.machine_bypassVoltage h phase

/-! ## The formulas are safe -/

namespace Worksheet

section Places

variable {frame : Bytes} {i : Nat}

theorem base_bounds : (base (operandAt frame i)).Safe ∧
    ((base (operandAt frame i)).span = ⟨0, 62535⟩ ∨
      (base (operandAt frame i)).span = ⟨0, 2999⟩) := by
  unfold base
  split
  · simp
  · simp

theorem safe_lastDigit : (lastDigit (operandAt frame i)).Safe := by
  simp [lastDigit, base_bounds.1]

theorem safe_nominalPower : (ratedPower (operandAt frame i) * 1000).Safe := by
  obtain ⟨safe, three | single⟩ := @base_bounds frame i
  · simp [ratedPower, safe, three]
  · simp [ratedPower, safe, single]

theorem safe_nominalRealPower (nineTenths : Bool) :
    (ratedRealPower (operandAt frame i) nineTenths * 1000).Safe := by
  obtain ⟨safe, three | single⟩ := @base_bounds frame i
  · cases nineTenths <;> simp [ratedRealPower, ratedPower, safe, three]
  · cases nineTenths <;> simp [ratedRealPower, ratedPower, safe, single]

theorem nominalLoad_bounds : (nominalLoad (operandAt frame i)).Safe ∧
    ((nominalLoad (operandAt frame i)).span = ⟨0, 6253500⟩ ∨
      (nominalLoad (operandAt frame i)).span = ⟨0, 299900⟩) := by
  obtain ⟨safe, three | single⟩ := @base_bounds frame i
  · simp [nominalLoad, safe, three]
  · simp [nominalLoad, safe, single]

theorem safe_inputCurrent (percent : UInt8) : (inputCurrent (operandAt frame i) percent).Safe := by
  obtain ⟨safe, three | single⟩ := @nominalLoad_bounds frame i
  · simp [inputCurrent, safe, three]
  · simp [inputCurrent, safe, single]

theorem safe_share {voltage : UInt8} (present : voltage ≠ 0) (percent : UInt8) :
    (share (operandAt frame i) voltage present percent).Safe := by
  obtain ⟨safe, three | single⟩ := @nominalLoad_bounds frame i
  · simp [share, safe, three]
  · simp [share, safe, single]

theorem current_bounds (voltage percent : UInt8) (phase : Phase) :
    (current (operandAt frame i) voltage percent phase).Safe ∧
      (current (operandAt frame i) voltage percent phase).span.most ≤ 0xFFFF := by
  unfold current
  split
  · next present =>
    refine ⟨?_, Nat.min_le_left _ _⟩
    split
    · simp [safe_share present percent]
    · exact safe_share present percent
  · simp

theorem safe_firmwareDigit {unit : Nat} (positive : 0 < unit) (small : unit < 2 ^ 16) :
    (firmwareDigit (operandAt frame i) unit).Safe := by
  simpa [firmwareDigit] using And.intro small positive

end Places

theorem safe_inputVoltage (percent : UInt8) : (inputVoltage percent).Safe := by
  -- simp multiplies the bounds out, and the kernel would then count up to the product
  have small : 0xFF * 230 < 2 ^ 32 := by decide
  exact ⟨⟨trivial, by simp, small⟩, by simp, by simp⟩

theorem safe_outputVoltage (doubled : Bool) (byte : UInt8) : (outputVoltage doubled byte).Safe := by
  cases doubled <;> simp [outputVoltage]

section Values

variable {value : Formula 16} (safe : value.Safe) (word : value.span.most ≤ 0xFFFF)

include safe word

theorem safe_derated (model : Operand 16) : (derated model value).Safe := by
  unfold derated
  split
  · have small : value.span.most * 9 < 2 ^ 32 := by omega
    simpa [safe] using small
  · exact safe

theorem safe_tenfold : (tenfold value).Safe := by
  have small : value.span.most * 10 < 2 ^ 32 := by omega
  simpa [tenfold, safe] using small

end Values

section Replies

variable (level : Extension) (frame : Bytes) (phase : Phase)

theorem safe_outputCurrent : (outputCurrent frame phase).Safe := by
  have bounds := @current_bounds frame 2 (byteAt frame 73) (phaseByte frame 62 1 phase) phase
  exact safe_derated bounds.1 bounds.2 _

theorem safe_electrical {i : Nat} {relative : Formula 16} (safe : relative.Safe) :
    (electrical level frame phase i relative).Safe := by
  cases level with
  | ext176 => simp [electrical, tenth]
  | also240 | only192 => exact safe

theorem safe_bypassVoltage : (bypassVoltage level frame phase).Safe := by
  cases level with
  | ext176 => simp [bypassVoltage, tenth]
  | also240 => simp [bypassVoltage]
  | only192 => trivial

theorem safe_peakCurrent : (peakCurrent frame phase).Safe := by
  unfold peakCurrent
  split
  · simp
  · simp

theorem safe_batteryVoltage : (batteryVoltage level frame).Safe := by
  unfold batteryVoltage
  split
  · exact safe_tenfold (by simp) (by simp)
  · exact safe_tenfold trivial (Nat.le_refl _)

theorem safe_batteryCurrent : (batteryCurrent frame).Safe := by
  unfold batteryCurrent
  split
  · exact safe_tenfold trivial (Nat.le_refl _)
  · trivial

end Replies

end Worksheet

/-- No formula can leave its integers, whatever the bytes. -/
theorem Quantity.safe_formula (level : Extension) (frame : Bytes) {bits : Nat}
    (quantity : Quantity bits) : (quantity.formula level frame).Safe := by
  cases quantity with
  | model | firmwareCode | inputFrequency | outputFrequency | runtime | charge | temperature
  | batteryCapacity | bypassFrequency | load => trivial
  | nominalPower => exact Worksheet.safe_nominalPower
  | nominalRealPower => exact Worksheet.safe_nominalRealPower _
  | inputVoltage phase =>
    exact Worksheet.safe_electrical level frame phase (Worksheet.safe_inputVoltage _)
  | inputCurrent phase =>
    exact Worksheet.safe_electrical level frame phase (Worksheet.safe_inputCurrent _)
  | outputVoltage phase =>
    exact Worksheet.safe_electrical level frame phase (Worksheet.safe_outputVoltage _ _)
  | outputCurrent phase =>
    exact Worksheet.safe_electrical level frame phase (Worksheet.safe_outputCurrent frame phase)
  | peakCurrent phase => exact Worksheet.safe_peakCurrent frame phase
  | batteryVoltage => exact Worksheet.safe_batteryVoltage level frame
  | batteryCurrent => exact Worksheet.safe_batteryCurrent frame
  | bypassVoltage phase => exact Worksheet.safe_bypassVoltage level frame phase

/-! ## What is read is exact -/

namespace Worksheet

theorem ratedRealPower_le (model : Operand 16) (nineTenths : Bool) :
    (ratedRealPower model nineTenths).exact ≤ (ratedPower model).exact := by
  have tenths : (if nineTenths then 9 else 8 : Formula 32).exact ≤ 10 := by
    cases nineTenths
    · exact (by decide : 8 ≤ 10)
    · exact (by decide : 9 ≤ 10)
  calc (ratedRealPower model nineTenths).exact
      = (ratedPower model).exact * 1000 * (if nineTenths then 9 else 8 : Formula 32).exact
          / 10 / 1000 := rfl
    _ ≤ (ratedPower model).exact * 1000 * 10 / 10 / 1000 :=
        Nat.div_le_div_right (Nat.div_le_div_right (Nat.mul_le_mul_left _ tenths))
    _ = (ratedPower model).exact := by omega

section Replies

variable {frame : Bytes}

theorem firmwareText_eq {i : Nat} (h : i + 1 < frame.length) :
    let digit (unit : Nat) : String := toString (firmwareDigit (operandAt frame i) unit).exact
    firmwareText (wordAt frame i h) = digit 1000 ++ digit 100 ++ "." ++ digit 10 ++ digit 1 := by
  intro digit
  have one {unit : UInt16} (positive : 0 < unit.toNat) :
      toString (wordAt frame i h / unit % 10).toNat = digit unit.toNat := by
    have fits := (sound_of_safe (@safe_firmwareDigit frame i _ positive unit.toNat_lt)).1
    have divisor : (BitVec.ofNat 16 unit.toNat : BitVec 16) = unit.toBitVec :=
      BitVec.ofNat_toNat 16 unit.toBitVec
    have computed : (firmwareDigit (operandAt frame i) unit.toNat).machine =
        (wordAt frame i h / unit % 10).toBitVec := by
      change (operandAt frame i).held / BitVec.ofNat 16 unit.toNat % 10#16 = _
      rw [held_operandAt h, divisor]
      rfl
    refine congrArg toString ?_
    rw [← toNat_machine fits, computed]
    rfl
  simp only [firmwareText, @one 1000 (by decide), @one 100 (by decide), @one 10 (by decide),
    @one 1 (by decide)]
  rfl

theorem resolve_only192_iff (h : 103 ≤ frame.length) :
    ∃ chosen, resolve frame = .ok chosen ∧
      (chosen = .only192 ↔ (lastDigit (operandAt frame 2)).exact < 4) := by
  have fits := (sound_of_safe (@safe_lastDigit frame 2)).1
  have computed := machine_base (held_operandAt (by omega : 2 + 1 < frame.length))
  have digit : (baseModel (wordAt frame 2 (by omega)) % 10).toNat =
      (lastDigit (operandAt frame 2)).exact := by
    rw [← toNat_machine fits]
    exact congrArg (fun base => (base % 10#16).toNat) computed.symm
  refine ⟨extensionOf frame h, dif_pos h, ?_⟩
  rw [← digit, extensionOf]
  split
  · next extended =>
    have extended : 4 ≤ (baseModel (wordAt frame 2 (by omega)) % 10).toNat :=
      UInt16.le_iff_toNat_le.mp extended
    rw [digit] at extended ⊢
    split <;> simp [extended]
  · next basic =>
    have basic : ¬4 ≤ (baseModel (wordAt frame 2 (by omega)) % 10).toNat :=
      fun extended => basic (UInt16.le_iff_toNat_le.mpr extended)
    exact iff_of_true rfl (Nat.lt_of_not_le basic)

end Replies

end Worksheet

theorem derate_zero (model : UInt16) : derate model 0 = 0 := by
  unfold derate
  split <;> rfl

theorem outputCurrent_of_silent {frame : Bytes} (h : 103 ≤ frame.length)
    (silent : byteAt frame 73 = 0) : (relativeElectrical frame h).outputCurrent = .all 0 := by
  have zero : frame[73] = 0 := (byteAt_eq _).symm.trans silent
  have nothing := derate_zero (wordAt frame 2 (by omega))
  simp [relativeElectrical, currentShares, zero, PerPhase.map, PerPhase.all, nothing]

/-- **The arithmetic of a telemetry reply is exact.** Every number that is read off a reply of
enough bytes is that of its formula over the natural numbers, since every value on the way fits the
integers it is computed in, no divisor is zero, and the offset is only taken from models that have
it. So it is for the digits of the firmware's version, for the load that stands behind the currents,
and for the digit that chooses the layout. The real power is never rated above the power, and
without a nominal voltage the output has no currents. -/
theorem telemetry_is_exact {level : Extension} {frame : Bytes}
    (long : level.replyLength ≤ frame.length) (s : Snapshot) :
    let model := operandAt frame 2
    let digit (unit : Nat) : Formula 16 := Worksheet.firmwareDigit (operandAt frame 4) unit
    ∃ after, Reply.decode (.telemetry level) frame s = .ok after ∧
      (∀ {bits : Nat} (quantity : Quantity bits),
        let formula := quantity.formula level frame
        formula.Fits ∧ quantity.read after = formula.machine ∧
          (quantity.read after).toNat = formula.exact) ∧
      (∀ unit ∈ [1000, 100, 10, 1], (digit unit).Fits) ∧
      after.firmware = toString (digit 1000).exact ++ toString (digit 100).exact ++ "."
        ++ toString (digit 10).exact ++ toString (digit 1).exact ∧
      (Worksheet.nominalLoad model).Fits ∧ (Worksheet.lastDigit model).Fits ∧
      (∃ chosen, resolve frame = .ok chosen ∧
        (chosen = .only192 ↔ (Worksheet.lastDigit model).exact < 4)) ∧
      after.nominalRealPower ≤ after.nominalPower ∧
      (level ≠ .ext176 → byteAt frame 73 = 0 → after.outputCurrent = .all 0) := by
  intro model digit
  have short : 103 ≤ frame.length := Nat.le_trans level.le_replyLength long
  have numbers {bits : Nat} (quantity : Quantity bits) :
      let formula := quantity.formula level frame
      formula.Fits ∧ quantity.read (apply level frame long s) = formula.machine ∧
        (quantity.read (apply level frame long s)).toNat = formula.exact := by
    have fits := (sound_of_safe (quantity.safe_formula level frame)).1
    have computed := quantity.machine_formula long s
    refine ⟨fits, computed.symm, ?_⟩
    rw [← computed, toNat_machine fits]
  refine ⟨apply level frame long s, dif_pos long, numbers, ?_, Worksheet.firmwareText_eq _, ?_, ?_,
    Worksheet.resolve_only192_iff short, ?_, ?_⟩
  · intro unit listed
    have bounds : 0 < unit ∧ unit < 2 ^ 16 := by
      simp only [List.mem_cons, List.not_mem_nil, or_false] at listed
      omega
    exact (sound_of_safe (Worksheet.safe_firmwareDigit bounds.1 bounds.2)).1
  · exact (sound_of_safe Worksheet.nominalLoad_bounds.1).1
  · exact (sound_of_safe Worksheet.safe_lastDigit).1
  · have real := (numbers .nominalRealPower).2.2
    have power := (numbers .nominalPower).2.2
    have below := Worksheet.ratedRealPower_le model (byteAt frame 76 &&& 0x08 != 0)
    refine UInt32.le_iff_toNat_le.mpr ?_
    calc (apply level frame long s).nominalRealPower.toNat
        = (Worksheet.ratedRealPower model (byteAt frame 76 &&& 0x08 != 0)).exact * 1000 := real
      _ ≤ (Worksheet.ratedPower model).exact * 1000 := Nat.mul_le_mul_right _ below
      _ = (apply level frame long s).nominalPower.toNat := power.symm
  · intro relative silent
    cases level with
    | ext176 => exact absurd rfl relative
    | also240 | only192 => exact outputCurrent_of_silent short silent

/-- The highest model, with all other bytes at their highest but for a nominal voltage of 1. -/
def highestReply : Bytes := (List.replicate 103 0xFF).set 73 1

/-- A product of 1594642500 stands behind its first current, which is then clipped. -/
theorem highest_reply_is_exact :
    103 ≤ highestReply.length ∧
      ∃ after, Reply.decode (.telemetry .only192) highestReply {} = .ok after ∧
        after.nominalPower.toNat = 6253000 ∧ after.nominalRealPower.toNat = 5627000 ∧
        after.inputVoltage.l1.toNat = 586 ∧ after.outputCurrent.l1.toNat = 65535 ∧
        after.peakCurrent.l3.toNat = 765 ∧ after.firmware = "55.35" := by
  obtain ⟨after, read, numbers, -, firmware, -⟩ :=
    telemetry_is_exact (by decide : Extension.only192.replyLength ≤ highestReply.length) {}
  have power := (numbers .nominalPower).2.2.trans (by decide : _ = 6253000)
  have real := (numbers .nominalRealPower).2.2.trans (by decide : _ = 5627000)
  have voltage := (numbers (.inputVoltage .l1)).2.2.trans (by decide : _ = 586)
  have current := (numbers (.outputCurrent .l1)).2.2.trans (by decide : _ = 65535)
  have peak := (numbers (.peakCurrent .l3)).2.2.trans (by decide : _ = 765)
  exact ⟨by decide, after, read, power, real, voltage, current, peak, firmware.trans (by decide)⟩

end Sentry

end UpsMonitor
