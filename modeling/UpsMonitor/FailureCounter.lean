/-!
# Failure counter

How many polls in a row have failed, and when the published data stops being trusted for it.
-/

namespace UpsMonitor

/-- What one more poll means for the published data. -/
inductive PollEvent
  | ok
  | failed (count : UInt32)
  /-- The limit was reached by this failure. -/
  | becameStale
  /-- The first success after the limit was reached. -/
  | recovered
  deriving DecidableEq

structure FailureCounter where
  limit : UInt32
  count : UInt32 := 0
  deriving DecidableEq

namespace FailureCounter

/-- Failures in a row that are tolerated unless configured otherwise. -/
def defaultLimit : UInt32 := 10

/-- A limit of zero is raised to one. -/
def ofLimit (limit : UInt32) : FailureCounter := { limit := max limit 1 }

def isStale (counter : FailureCounter) : Bool := counter.limit ≤ counter.count

/-- The count stops at the limit. -/
def recordFailure (counter : FailureCounter) : PollEvent × FailureCounter :=
  if counter.limit ≤ counter.count then (.failed counter.count, counter)
  else
    let count := counter.count + 1
    (if count = counter.limit then .becameStale else .failed count, { counter with count })

def recordSuccess (counter : FailureCounter) : PollEvent × FailureCounter :=
  (if counter.isStale then .recovered else .ok, { counter with count := 0 })

end FailureCounter

end UpsMonitor
