import UpsMonitor.Protocol

/-!
# Commands

An outgoing frame, with what its sender must know to read the reply.
-/

namespace UpsMonitor

/-- `family` and `mode` are those of the reply that is waited for. -/
structure Command where
  name : String
  family : Family
  mode : CheckMode
  bytes : Bytes
  deriving DecidableEq

end UpsMonitor
