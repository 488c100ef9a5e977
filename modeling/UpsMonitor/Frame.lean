import UpsMonitor.Checksum

/-!
# Frames

A complete reply with the two judgements on it. They are independent: a reply may reject the command
and fail its checksum at once.
-/

namespace UpsMonitor

structure Frame where
  family : Family
  bytes : Bytes
  nak : Bool
  badChecksum : Bool
  deriving DecidableEq

/-- Only a GPSER frame can say that the command was rejected. -/
def Frame.ofBytes (family : Family) (mode : CheckMode) (bytes : Bytes) : Frame where
  family
  bytes
  nak := family = .gpser && bytes[Wire.nakOffset]? = some Wire.nak
  badChecksum := !Checksum.verify family mode bytes

/-- A frame that neither rejects the command nor fails its checksum. -/
def Frame.clean (frame : Frame) : Bool := !frame.nak && !frame.badChecksum

end UpsMonitor
