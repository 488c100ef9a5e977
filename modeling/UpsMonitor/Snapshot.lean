import UpsMonitor.Status

/-!
# Snapshots

All that is known of a unit. Replies are decoded onto a snapshot, and what a reply does not carry
stays as it was. Voltages are in volts, frequencies and battery voltages in tenths, run times in
minutes, powers in volt-amperes and watts.
-/

namespace UpsMonitor

/-- One value for each phase. -/
structure PerPhase (α : Type) where
  l1 : α
  l2 : α
  l3 : α
  deriving DecidableEq

def PerPhase.map {α β : Type} (f : α → β) (values : PerPhase α) : PerPhase β :=
  ⟨f values.l1, f values.l2, f values.l3⟩

def PerPhase.all {α : Type} (value : α) : PerPhase α := ⟨value, value, value⟩

/-- The value a unit gives for what it cannot tell, and the value published for it. -/
def unknownWord : UInt16 := 0xFFFF

structure Snapshot where
  firmwareCode : UInt16 := 0
  model : UInt16 := 0
  inputVoltage : PerPhase UInt16 := .all 0
  inputCurrent : PerPhase UInt16 := .all 0
  inputFrequency : UInt16 := 0
  outputVoltage : PerPhase UInt16 := .all 0
  outputCurrent : PerPhase UInt16 := .all 0
  /-- Percent of the rated power. -/
  load : PerPhase UInt16 := .all 0
  peakCurrent : PerPhase UInt16 := .all 0
  outputFrequency : UInt16 := 0
  runtime : UInt16 := 0
  charge : UInt16 := 0
  batteryVoltage : UInt16 := 0
  batteryCurrent : UInt16 := 0
  temperature : UInt16 := 0
  batteryCapacity : UInt16 := 0
  bypassVoltage : PerPhase UInt16 := .all 0
  bypassFrequency : UInt16 := 0
  locked : Bool := false
  status : StatusCode := {}
  /-- The unpacked table of alarm and status pairs. -/
  alarmTable : Bytes := []
  serial : String := ""
  modelName : String := ""
  firmware : String := ""
  /-- The identity block, from which mode and layout are negotiated. -/
  identity : Vector UInt8 12 := .replicate 12 0
  nominalPower : UInt32 := 0
  nominalRealPower : UInt32 := 0
  nominalBatteryVoltage : UInt16 := 0
  batteryCount : UInt16 := 0
  nominalOutputVoltage : UInt16 := 0
  nominalOutputFrequency : UInt16 := 0
  boost : Bool := false
  buck : Bool := false
  power : PerPhase UInt32 := .all 0
  realPower : PerPhase UInt32 := .all 0
  deriving DecidableEq

instance : Inhabited Snapshot := ⟨{}⟩

/-- The byte of the identity block that tells which sides of the unit have a single phase. -/
def Snapshot.phasesByte (snapshot : Snapshot) : UInt8 := snapshot.identity[0]

/-- The byte of the identity block that tells how frames are checked. -/
def Snapshot.modeByte (snapshot : Snapshot) : UInt8 := snapshot.identity[4]

def Snapshot.flags (snapshot : Snapshot) : StatusFlags := snapshot.status.flags

end UpsMonitor
