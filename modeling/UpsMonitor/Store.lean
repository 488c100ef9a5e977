import UpsMonitor.Json
import UpsMonitor.SortedMap

/-!
# Published state

What the monitor has told the world about a unit: named values, a status word, the commands it takes
and whether all of it still holds. The state changes by notices only.
-/

namespace UpsMonitor

/-- One thing the monitor publishes. -/
inductive Notice
  | info (key value : String)
  /-- Replaces the status word. -/
  | status (tokens : List String)
  | command (name : String)
  | stale
  | ok
  deriving DecidableEq

structure Store where
  values : SortedMap String := {}
  status : String := ""
  commands : SortedMap Unit := {}
  stale : Bool := false

namespace Store

def apply (store : Store) : Notice → Store
  | .info key value => { store with values := store.values.insert key value }
  | .status tokens => { store with status := " ".intercalate tokens }
  | .command name => { store with commands := store.commands.insert name () }
  | .stale => { store with stale := true }
  | .ok => { store with stale := false }

def applyAll (store : Store) (notices : List Notice) : Store := notices.foldl apply store

def get? (store : Store) (key : String) : Option String := store.values.get? key

def hasCommand (store : Store) (name : String) : Bool := store.commands.contains name

/-- The state as JSON text, keys and commands in order. -/
def json (store : Store) : String :=
  Json.record [
    ("values", Json.record (store.values.entries.map fun (key, value) => (key, Json.quoted value))),
    ("status", Json.quoted store.status),
    ("commands", Json.list (store.commands.keys.map Json.quoted)),
    ("stale", Json.bool store.stale)]

end Store

end UpsMonitor
