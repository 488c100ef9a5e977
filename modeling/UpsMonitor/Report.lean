import UpsMonitor.Protocol

/-!
# Reports

A frame crosses the USB bridge in reports of eight bytes: a count and up to seven bytes of payload.
-/

namespace UpsMonitor.Report

def size : Nat := 8

/-- Payload bytes that a report carries. -/
def capacity : Nat := 7

/-- One report. Its first byte is 0x30 and the count of payload bytes; the characters 0 fill it
up. -/
def pack (chunk : Bytes) : Bytes :=
  (0x30 + UInt8.ofNat chunk.length) :: chunk ++ List.replicate (capacity - chunk.length) 0x30

/-- A byte run in reports, each but the last of them full. -/
def ofBytes : Bytes → List Bytes
  | [] => []
  | byte :: rest => pack (byte :: rest.take (capacity - 1)) :: ofBytes (rest.drop (capacity - 1))
termination_by bytes => bytes.length
decreasing_by simp only [List.length_drop, List.length_cons]; omega

/-- The valid payload of a report. The low three bits of its first byte count it, but never beyond
the bytes that are there. -/
def payload : Bytes → Bytes
  | [] => []
  | count :: bytes => bytes.take (count &&& 0x07).toNat

/-- The pause after an outgoing report, in microseconds. A delay of 1, or none, is 400 microseconds;
larger delays are milliseconds. -/
def pause (delay : UInt32) : Nat := if delay ≤ 1 then 400 else delay.toNat * 1000

end UpsMonitor.Report
