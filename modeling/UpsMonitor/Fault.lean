import UpsMonitor.Protocol

/-!
# Faults

What can go wrong between the monitor and a unit, how it is worded, and what the link does about it.
Faults in a configuration, of the disk and in writing a record are not among these. They come about
only where a configuration is read or a record is kept, never on the way to a unit, and have types
of their own there: `Config.Problem` and `Telemetry.DiskFault`. A link would keep its handle on any
of them, as it does on all faults that are neither fatal nor of USB.
-/

namespace UpsMonitor

/-- Kinds of USB failure. -/
inductive UsbFailure
  | busy
  | permissionDenied
  | stall
  | timerExpired
  | noDevice
  | accessDenied
  | io
  | noSuchAddress
  | notFound
  | timedOut
  | overflow
  | protocol
  | cancelled
  | invalidInput
  deriving DecidableEq

namespace UsbFailure

def all : List UsbFailure :=
  [busy, permissionDenied, stall, timerExpired, noDevice, accessDenied, io, noSuchAddress, notFound,
    timedOut, overflow, protocol, cancelled, invalidInput]

def name : UsbFailure → String
  | busy => "Busy"
  | permissionDenied => "PermissionDenied"
  | stall => "Stall"
  | timerExpired => "TimerExpired"
  | noDevice => "NoDevice"
  | accessDenied => "AccessDenied"
  | io => "Io"
  | noSuchAddress => "NoSuchAddress"
  | notFound => "NotFound"
  | timedOut => "TimedOut"
  | overflow => "Overflow"
  | protocol => "Protocol"
  | cancelled => "Cancelled"
  | invalidInput => "InvalidInput"

end UsbFailure

inductive Fault
  | usb (kind : UsbFailure) (detail : String)
  /-- The report budget was spent before a frame was complete. -/
  | timeout (reports : Nat)
  /-- The unit rejected the command. -/
  | nak
  | badChecksum
  /-- A reply is too short for what it should hold. -/
  | insufficient (expected actual : Nat)
  | protocol (detail : String)
  | deviceNotFound (detail : String)
  /-- Nothing the monitor could try again would help. -/
  | fatal (detail : String)
  deriving DecidableEq

namespace Fault

def message : Fault → String
  | usb kind detail => s!"USB error ({kind.name}): {detail}"
  | timeout reports => s!"No complete frame after {reports} reports"
  | nak => "Command rejected by UPS (NAK)"
  | badChecksum => "Bad checksum in reply"
  | insufficient expected actual => s!"Insufficient data: expected {expected} bytes, got {actual}"
  | protocol detail => s!"Protocol error: {detail}"
  | deviceNotFound detail => s!"Device not found: {detail}"
  | fatal detail => s!"Fatal error: {detail}"

def isFatal : Fault → Bool
  | fatal _ => true
  | _ => false

end Fault

/-- Refuses a frame of fewer than `needed` bytes. -/
def requireLength (frame : Bytes) (needed : Nat) : Except Fault Unit :=
  if frame.length < needed then .error (.insufficient needed frame.length) else .ok ()

/-- What the link does after a failed exchange. -/
inductive Recovery
  /-- Give up. -/
  | fatal
  /-- Clear the halt of the endpoint and try once more. -/
  | clearAndRetry
  /-- Reset the device, drop the handle and open it anew when it is next needed. -/
  | resetAndReconnect
  /-- Drop the handle and open it anew when it is next needed. -/
  | reconnect
  /-- Report the failure and keep the handle. -/
  | softFail
  deriving DecidableEq

def UsbFailure.recovery : UsbFailure → Recovery
  | busy | permissionDenied => .fatal
  | stall => .clearAndRetry
  | timerExpired => .resetAndReconnect
  | noDevice | accessDenied | io | noSuchAddress | notFound => .reconnect
  | timedOut | overflow | protocol | cancelled | invalidInput => .softFail

/-- Only USB failures touch the handle. -/
def Fault.recovery : Fault → Recovery
  | usb kind _ => kind.recovery
  | fatal _ => .fatal
  | _ => .softFail

end UpsMonitor
