import UpsMonitor.Protocol

/-!
# Words

How 16-bit words are clipped out of longer values and laid out in bytes.
-/

namespace UpsMonitor.Word

/-- The largest word stands for everything above it. -/
def clip (value : UInt32) : UInt16 := if 0xFFFF ≤ value then 0xFFFF else value.toUInt16

/-- A word with its low byte first. -/
def littleEndian (value : UInt16) : Bytes := [value.toUInt8, (value >>> 8).toUInt8]

/-- The word of a low and a high byte. -/
def ofLittleEndian (low high : UInt8) : UInt16 := low.toUInt16 ||| (high.toUInt16 <<< 8)

end UpsMonitor.Word
