import UpsMonitor.BitField

/-!
# Unit status

The five-byte status bitmap, the conditions it stands for, and the words they are published as.
-/

namespace UpsMonitor

structure StatusCode where
  byte0 : UInt8 := 0
  byte1 : UInt8 := 0
  byte2 : UInt8 := 0
  byte3 : UInt8 := 0
  byte4 : UInt8 := 0
  deriving DecidableEq, Inhabited

def StatusCode.bytes (code : StatusCode) : Bytes :=
  [code.byte0, code.byte1, code.byte2, code.byte3, code.byte4]

structure StatusFlags where
  onBattery : Bool
  lowBattery : Bool
  standby : Bool
  bypass : Bool
  overload : Bool
  buck : Bool
  boost : Bool
  replaceBattery : Bool
  charging : Bool
  deriving DecidableEq

/-- A battery is low only while the unit runs on it. Standby is the absence of a bit. -/
def StatusCode.flags (code : StatusCode) : StatusFlags :=
  let onBattery := testBit code.bytes 1
  { onBattery
    lowBattery := onBattery && testBit code.bytes 0
    standby := !testBit code.bytes 3
    bypass := testBit (code.bytes.drop 1) 3
    overload := testBit (code.bytes.drop 4) 2
    buck := testBit (code.bytes.drop 1) 0
    boost := testBit (code.bytes.drop 1) 1
    replaceBattery := testBit (code.bytes.drop 2) 0
    charging := testBit (code.bytes.drop 2) 2 }

/-- The status words, in publishing order. The first always tells line from battery. -/
def StatusFlags.tokens (flags : StatusFlags) : List String :=
  (if flags.onBattery then "OB" else "OL") ::
    ([(flags.lowBattery, "LB"), (flags.standby, "OFF"), (flags.bypass, "BYPASS"),
      (flags.overload, "OVER"), (flags.buck, "TRIM"), (flags.boost, "BOOST"),
      (flags.replaceBattery, "RB"), (flags.charging, "CHRG")].filter (·.1)).map (·.2)

end UpsMonitor
