import UpsMonitor.Fault
import UpsMonitor.Snapshot
import UpsMonitor.Word

/-!
# SENTRY replies

A telemetry reply is a table of bytes and words at fixed places. Its layout gives each measurement
either as it is or as a share of a nominal value, and the status bits are scattered over it.
-/

namespace UpsMonitor.Sentry

open Word (clip)

/-- Models from here on are the three-phase variants of the models without this offset. -/
def threePhaseOffset : UInt16 := 3000

def isThreePhase (model : UInt16) : Bool := threePhaseOffset ≤ model

/-- The model without the offset for three phases. -/
def baseModel (model : UInt16) : UInt16 :=
  if isThreePhase model then model - threePhaseOffset else model

/-- Ten times a value, clipped. -/
def tenfold (value : UInt16) : UInt16 := clip (value.toUInt32 * 10)

/-- The word at a place, low byte first. -/
def wordAt (frame : Bytes) (i : Nat) (h : i + 1 < frame.length) : UInt16 :=
  Word.ofLittleEndian frame[i] frame[i + 1]

/-- The bytes at a place and at the two that follow at a distance. -/
def bytesAt (frame : Bytes) (i step : Nat) (h : i + 2 * step < frame.length) : PerPhase UInt8 :=
  ⟨frame[i], frame[i + step], frame[i + 2 * step]⟩

/-- The three words from a place on. -/
def wordsAt (frame : Bytes) (i : Nat) (h : i + 5 < frame.length) : PerPhase UInt16 :=
  ⟨wordAt frame i (by omega), wordAt frame (i + 2) (by omega), wordAt frame (i + 4) (by omega)⟩

/-- The layouts beyond the basic one are for models whose last digit is 4 or more, and a bit of the
reply chooses between them. -/
def extensionOf (frame : Bytes) (h : 103 ≤ frame.length) : Extension :=
  if baseModel (wordAt frame 2 (by omega)) % 10 ≥ 4 then
    if frame[100] &&& 0x01 != 0 then .ext176 else .also240
  else .only192

/-- The telemetry layout to use after this identification reply. -/
def resolve (frame : Bytes) : Except Fault Extension :=
  if h : 103 ≤ frame.length then .ok (extensionOf frame h)
  else .error (.insufficient 103 frame.length)

/-- The rated power in kilovolt-amperes is the model's number without its last digit. -/
def ratedPower (model : UInt16) : UInt32 := (baseModel model).toUInt32 / 10

/-- The rated real power in kilowatts is eight tenths of the rated power, or nine. -/
def ratedRealPower (model : UInt16) (nineTenths : Bool) : UInt32 :=
  ratedPower model * 1000 * (if nineTenths then 9 else 8) / 10 / 1000

/-- Four decimal digits with a point in the middle. -/
def firmwareText (version : UInt16) : String :=
  let digit (unit : UInt16) : String := toString (version / unit % 10).toNat
  digit 1000 ++ digit 100 ++ "." ++ digit 10 ++ digit 1

/-- An identity block from which the layout of the phases follows as for any unit. -/
def identityBlock (model : UInt16) : Vector UInt8 12 :=
  .mk #[if isThreePhase model then 0x34 else 0x33, 0x33, 0, 0, 0, 0, 0x32, 0, 0, 0, 0, 0] rfl

/-- The power that shares of the nominal current refer to. -/
def nominalLoad (model : UInt16) : UInt32 := (baseModel model).toUInt32 * 100

/-- Output currents from the load percentages. Nothing is known without a nominal voltage. -/
def currentShares (model : UInt16) (voltage : UInt8) (load : PerPhase UInt8) : PerPhase UInt16 :=
  if voltage = 0 then .all 0
  else
    let unit := nominalLoad model / voltage.toUInt32
    let share (percent : UInt8) : UInt32 := unit * percent.toUInt32 / 100
    ⟨clip (if isThreePhase model then share load.l1 / 3 else share load.l1),
      clip (share load.l2 / 3), clip (share load.l3 / 3)⟩

/-- Some models carry nine tenths of the current. -/
def derate (model : UInt16) (current : UInt16) : UInt16 :=
  if model &&& 0x0007 < 4 then clip (current.toUInt32 * 9 / 10) else current

/-- Measurements that the layouts give in different ways. -/
structure Electrical where
  inputVoltage : PerPhase UInt16
  inputCurrent : PerPhase UInt16
  outputVoltage : PerPhase UInt16
  outputCurrent : PerPhase UInt16
  deriving DecidableEq

/-- The long reply holds tenths. -/
def absoluteElectrical (frame : Bytes) (h : 164 ≤ frame.length) : Electrical where
  inputVoltage := (wordsAt frame 117 (by omega)).map (· / 10)
  inputCurrent := (wordsAt frame 123 (by omega)).map (· / 10)
  outputVoltage := (wordsAt frame 135 (by omega)).map (· / 10)
  outputCurrent := (wordsAt frame 141 (by omega)).map (· / 10)

/-- The short reply holds percentages of nominal values. -/
def relativeElectrical (frame : Bytes) (h : 103 ≤ frame.length) : Electrical :=
  let model := wordAt frame 2 (by omega)
  let scale : UInt32 := if frame[79] &&& 0x80 != 0 then 2 else 1
  { inputVoltage :=
      (bytesAt frame 35 1 (by omega)).map fun b => clip (b.toUInt32 * 230 / 100)
    inputCurrent :=
      (bytesAt frame 38 1 (by omega)).map fun b => clip (nominalLoad model / 690 * b.toUInt32 / 100)
    outputVoltage := (bytesAt frame 59 1 (by omega)).map fun b => clip (b.toUInt32 * scale)
    outputCurrent :=
      (currentShares model frame[73] (bytesAt frame 62 1 (by omega))).map (derate model) }

def electrical (level : Extension) (frame : Bytes) (h : level.replyLength ≤ frame.length) :
    Electrical :=
  match level, h with
  | .ext176, h => absoluteElectrical frame h
  | .also240, h | .only192, h => relativeElectrical frame h

/-- Bypass voltages are tenths, halves or whole volts, as the layout has it. -/
def bypassVoltage (level : Extension) (frame : Bytes) (h : level.replyLength ≤ frame.length) :
    PerPhase UInt16 :=
  match level, h with
  | .ext176, h =>
    have : 164 ≤ frame.length := h
    (wordsAt frame 129 (by omega)).map (· / 10)
  | .also240, h =>
    have : 103 ≤ frame.length := h
    (bytesAt frame 51 2 (by omega)).map (·.toUInt16 * 2)
  | .only192, h =>
    have : 103 ≤ frame.length := h
    wordsAt frame 51 (by omega)

/-- Tenths of a volt. Beyond the basic layout a bit tells whether the battery is two halves, of which
the weaker counts. -/
def batteryVoltage (level : Extension) (frame : Bytes) (h : 103 ≤ frame.length) : UInt16 :=
  if level ≠ .only192 ∧ frame[100] &&& 0x80 = 0 then
    tenfold ((min frame[43] frame[44]).toUInt16 * 2)
  else tenfold (wordAt frame 43 (by omega))

/-- The alarms behind a load on bypass: one of its own, and four bits of a longer field. -/
def bypassRequested (frame : Bytes) (h : 103 ≤ frame.length) : Bool :=
  frame[31] &&& 0x02 != 0 || [0, 12, 13, 14].any (testBit (frame.drop 32))

/-- The scattered alarm bits, gathered in the bitmap of a GPSER status reply. -/
def statusOf (frame : Bytes) (h : 103 ≤ frame.length) : StatusCode :=
  let alarms := frame[31]
  let onBattery : UInt8 := if alarms &&& 0x08 != 0 then 0x02 else 0
  let lowBattery : UInt8 := if alarms &&& 0x08 != 0 && alarms &&& 0x10 != 0 then 0x01 else 0
  let running : UInt8 := if frame[22] &&& 0x02 != 0 || frame[34] &&& 0x0C != 0 then 0 else 0x08
  { byte0 := running ||| onBattery ||| lowBattery
    byte1 := if bypassRequested frame h && frame[34] &&& 0x08 == 0 then 0x08 else 0
    byte2 := if alarms &&& 0x40 != 0 then 0x01 else 0
    byte3 := 0
    byte4 := if alarms &&& 0x80 != 0 then 0x04 else 0 }

/-- Lays a reply that is long enough for its layout over a snapshot. -/
def apply (level : Extension) (frame : Bytes) (h : level.replyLength ≤ frame.length)
    (s : Snapshot) : Snapshot :=
  have long : 103 ≤ frame.length := Nat.le_trans level.le_replyLength h
  let model := wordAt frame 2 (by omega)
  let measured := electrical level frame h
  let peak (byte : UInt8) : UInt16 := byte.toUInt16 * 3
  { s with
    model
    modelName := toString model.toNat
    nominalPower := ratedPower model * 1000
    nominalRealPower := ratedRealPower model (frame[76] &&& 0x08 != 0) * 1000
    identity := identityBlock model
    firmwareCode := wordAt frame 4 (by omega)
    firmware := firmwareText (wordAt frame 4 (by omega))
    inputFrequency := wordAt frame 41 (by omega)
    inputVoltage := measured.inputVoltage
    inputCurrent := measured.inputCurrent
    outputVoltage := measured.outputVoltage
    outputCurrent := measured.outputCurrent
    load := (bytesAt frame 62 1 (by omega)).map (·.toUInt16)
    peakCurrent :=
      if isThreePhase model then (bytesAt frame 65 1 (by omega)).map peak
      else ⟨peak frame[65], 0, 0⟩
    outputFrequency := wordAt frame 68 (by omega)
    runtime := wordAt frame 6 (by omega)
    charge := frame[8].toUInt16
    batteryVoltage := batteryVoltage level frame long
    batteryCurrent :=
      if frame[47] = 0 then tenfold (wordAt frame 45 (by omega)) else wordAt frame 45 (by omega)
    temperature := frame[48].toUInt16
    batteryCapacity := wordAt frame 74 (by omega)
    bypassVoltage := bypassVoltage level frame h
    bypassFrequency := wordAt frame 57 (by omega)
    status := statusOf frame long }

/-- Reads a telemetry reply in the given layout onto a snapshot. -/
def decode (level : Extension) (frame : Bytes) (s : Snapshot) : Except Fault Snapshot :=
  if h : level.replyLength ≤ frame.length then .ok (apply level frame h s)
  else .error (.insufficient level.replyLength frame.length)

end UpsMonitor.Sentry
