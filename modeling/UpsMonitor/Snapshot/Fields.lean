import UpsMonitor.Snapshot

/-!
# Fields of a snapshot

The published names of the values in a snapshot, in the order in which a record lists them.
-/

namespace UpsMonitor

inductive Field
  | number (value : Nat)
  | flag (value : Bool)
  | text (value : String)
  | bytes (value : Bytes)
  deriving DecidableEq

namespace Snapshot

def word (name : String) (value : UInt16) : String × Field := (name, .number value.toNat)

def long (name : String) (value : UInt32) : String × Field := (name, .number value.toNat)

/-- A name numbered by phase. -/
def words (stem : String) (values : PerPhase UInt16) : List (String × Field) :=
  [word (stem ++ "1") values.l1, word (stem ++ "2") values.l2, word (stem ++ "3") values.l3]

def longs (stem ending : String) (values : PerPhase UInt32) : List (String × Field) :=
  [long (stem ++ "1" ++ ending) values.l1, long (stem ++ "2" ++ ending) values.l2,
    long (stem ++ "3" ++ ending) values.l3]

/-- The identity block is known but is no part of a record. -/
def identityField (s : Snapshot) : String × Field := ("identif_bytes", .bytes s.identity.toList)

/-- The values of a record. -/
def fields (s : Snapshot) : List (String × Field) :=
  [word "sw_version" s.firmwareCode, word "model" s.model]
    ++ words "uinp" s.inputVoltage ++ words "iinp" s.inputCurrent
    ++ [word "finp" s.inputFrequency]
    ++ words "uout" s.outputVoltage ++ words "iout" s.outputCurrent ++ words "pout" s.load
    ++ words "ipout" s.peakCurrent
    ++ [word "fout" s.outputFrequency, word "bat_time" s.runtime, word "bat_cap" s.charge,
      word "ubat" s.batteryVoltage, word "ibat" s.batteryCurrent, word "tsystem" s.temperature,
      word "nom_bat_cap" s.batteryCapacity]
    ++ words "ubypass" s.bypassVoltage
    ++ [word "fbypass" s.bypassFrequency, ("lock_ups", .flag s.locked),
      ("status_code", .bytes s.status.bytes), ("status_code_table", .bytes s.alarmTable),
      ("identification", .text s.serial), ("model_name", .text s.modelName),
      ("version", .text s.firmware), long "nom_power_va" s.nominalPower,
      long "nom_power_w" s.nominalRealPower, word "nom_ubat" s.nominalBatteryVoltage,
      word "num_bat" s.batteryCount, word "nominal_uout" s.nominalOutputVoltage,
      word "nom_fout" s.nominalOutputFrequency, ("boost", .flag s.boost), ("buck", .flag s.buck)]
    ++ longs "pout" "_va" s.power ++ longs "pout" "_w" s.realPower

end Snapshot

end UpsMonitor
