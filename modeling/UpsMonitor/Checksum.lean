import UpsMonitor.Nibble
import UpsMonitor.Word

/-!
# Checksums

The guard word of a frame, how it is written at the frame's end and how it is checked there. GPSER
frames carry it as four nibble characters before the end byte, SENTRY frames as a word with its low
byte first.
-/

namespace UpsMonitor.Checksum

/-- The sum of all bytes, as a word. -/
def byteSum (bytes : Bytes) : UInt16 := bytes.foldl (fun sum byte => sum + byte.toUInt16) 0

/-- One byte of the cyclic check. The low byte of the running value is mixed with the new byte
nibble by nibble, and the high byte moves down. -/
def crcStep (crc : UInt16) (byte : UInt8) : UInt16 :=
  let low := (crc ^^^ byte.toUInt16) &&& 0xFF
  let folded := ((low ^^^ (low <<< 4)) &&& 0xFF) <<< 8
  let spread := folded ^^^ (folded <<< 3)
  (crc >>> 8) ^^^ (spread ^^^ (spread >>> 4))

def crcSeed : UInt16 := 0x554D

def crc (bytes : Bytes) : UInt16 := bytes.foldl crcStep crcSeed

/-- The bytes a SENTRY sum runs over. The last byte of a span of 101 is not summed. -/
def summedSpan (bytes : Bytes) : Bytes := if bytes.length = 101 then bytes.take 100 else bytes

/-- The guard word of a frame's content. The start byte of a GPSER frame is never part of it. -/
def word (family : Family) (mode : CheckMode) (content : Bytes) : UInt16 :=
  match family, mode with
  | .sentry, _ => byteSum (summedSpan content)
  | .gpser, .sum => byteSum (content.drop 1)
  | .gpser, .crc => crc (content.drop 1)

/-- How a family writes its guard word. -/
def written (family : Family) (value : UInt16) : Bytes :=
  match family with
  | .gpser => Nibble.encodeWord value
  | .sentry => Word.littleEndian value

/-- A frame's content with its guard word behind it. -/
def append (family : Family) (mode : CheckMode) (content : Bytes) : Bytes :=
  content ++ written family (word family mode content)

/-- The guard word a complete frame carries, with the content it guards. -/
def split? : Family → Bytes → Option (Bytes × UInt16)
  | .gpser, frame =>
    if frame.length < Wire.trailerLength then none
    else
      let cut := frame.length - Wire.trailerLength
      some (frame.take cut, (Nibble.decode ((frame.drop cut).take 4)).toUInt16)
  | .sentry, frame =>
    match frame.drop (frame.length - 2) with
    | [low, high] => some (frame.take (frame.length - 2), Word.ofLittleEndian low high)
    | _ => none

/-- A frame too short to carry a guard word never passes. -/
def verify (family : Family) (mode : CheckMode) (frame : Bytes) : Bool :=
  match split? family frame with
  | some (content, carried) => word family mode content == carried
  | none => false

end UpsMonitor.Checksum
