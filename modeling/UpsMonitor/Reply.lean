import UpsMonitor.Reply.Gpser
import UpsMonitor.Reply.Sentry

/-!
# Replies

The kinds of data reply, each with its way of reading a frame onto a snapshot. A frame that cannot
be read leaves no trace.
-/

namespace UpsMonitor

inductive Reply
  | identity
  | nominal
  | status (declared : Nat)
  | extended
  | statusCodes
  | telemetry (level : Extension)
  deriving DecidableEq

def Reply.decode (kind : Reply) (frame : Bytes) (s : Snapshot) : Except Fault Snapshot :=
  match kind with
  | identity => (IdentityReply.ofFrame frame).map (·.apply s)
  | nominal => (NominalReply.ofFrame frame).map (·.apply s)
  | status declared => (StatusReply.ofFrame declared frame).map (·.apply s)
  | extended => (ExtendedReply.ofFrame frame).map (·.apply s)
  | statusCodes => (CodesReply.ofFrame frame).map (·.apply s)
  | telemetry level => Sentry.decode level frame s

end UpsMonitor
