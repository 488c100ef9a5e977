import UpsMonitor.Fault

/-!
# Causes of USB failures

How the failures that the operating system and the transfer layer report fall into kinds.
-/

namespace UpsMonitor

/-- How a transfer ends when it fails. -/
inductive TransferFailure
  | stall
  | disconnected
  | cancelled
  | fault
  | unknown
  deriving DecidableEq

def TransferFailure.kind : TransferFailure → UsbFailure
  | stall => .stall
  | disconnected => .noDevice
  | cancelled => .cancelled
  | fault | unknown => .io

/-- The kind of a failed system call, by its error number. -/
def UsbFailure.ofErrno (code : Int) : UsbFailure :=
  match code with
  | 1 => .permissionDenied
  | 2 => .notFound
  | 5 => .io
  | 6 => .noSuchAddress
  | 13 => .accessDenied
  | 16 => .busy
  | 19 => .noDevice
  | 32 => .stall
  | 62 => .timerExpired
  | 71 => .protocol
  | 75 => .overflow
  | 110 => .timedOut
  | _ => .io

/-- Failures of system calls that come without an error number. -/
inductive SystemFailure
  | permissionDenied
  | notFound
  | timedOut
  | brokenPipe
  | invalidInput
  | other
  deriving DecidableEq

def SystemFailure.kind : SystemFailure → UsbFailure
  | permissionDenied => .permissionDenied
  | notFound => .notFound
  | timedOut => .timedOut
  | brokenPipe => .stall
  | invalidInput => .invalidInput
  | other => .io

end UpsMonitor
