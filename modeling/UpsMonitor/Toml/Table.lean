import UpsMonitor.Toml.Value

/-!
# Tables

How keys and headers build up a table. A key can be given once; a table made by a dotted key or in
braces cannot be reopened by a header, nor one with a header of its own by a dotted key.
-/

namespace UpsMonitor.Toml.Entries

/-- Gives an existing key another value. -/
def replace (entries : Entries) (key : String) (value : Value) : Entries :=
  entries.map fun (other, held) => (other, if other = key then value else held)

/-- Adds a new key. -/
def insertNew (entries : Entries) (key : String) (value : Value) : Option Entries :=
  if (entries.lookup key).isSome then none else some (entries ++ [(key, value)])

/-- Changes the last of some tables. -/
def changeLast (items : List Entries) (change : Entries → Option Entries) : Option (List Entries) :=
  match items.getLast? with
  | some last => (change last).map fun changed => items.dropLast ++ [changed]
  | none => none

/-- Adds a value under a dotted key, below a table of the given standing. The tables on the way must
have been made by dotted keys, or be implied by headers, and the last by a dotted key. -/
def insertDotted (key : String) (value : Value) :
    List String → Standing → Entries → Option Entries
  | [], standing, entries => if standing = .dotted then entries.insertNew key value else none
  | part :: rest, _, entries =>
    match entries.lookup part with
    | none =>
      (insertDotted key value rest .dotted []).map fun made =>
        entries ++ [(part, .table .dotted made)]
    | some (.table standing held) =>
      if standing = .dotted || standing = .implied then
        (insertDotted key value rest standing held).map fun changed =>
          entries.replace part (.table standing changed)
      else none
    | some (.tables items) =>
      (changeLast items (insertDotted key value rest .headed)).map fun changed =>
        entries.replace part (.tables changed)
    | some _ => none

/-- Adds a value under a key of one or more parts. -/
def insert (entries : Entries) (path : List String) (key : String) (value : Value) :
    Option Entries :=
  match path with
  | [] => entries.insertNew key value
  | _ => insertDotted key value path .headed entries

/-- Changes the table a header names, in the last of the tables wherever there are several. -/
def change (f : Entries → Option Entries) : List String → Entries → Option Entries
  | [], entries => f entries
  | part :: rest, entries =>
    match entries.lookup part with
    | some (.table standing held) =>
      (change f rest held).map fun changed => entries.replace part (.table standing changed)
    | some (.tables items) =>
      (changeLast items (change f rest)).map fun changed => entries.replace part (.tables changed)
    | _ => none

/-- Opens the table that a header names by its last part: a new one, or one that was only
implied. -/
def openHere (key : String) (entries : Entries) : Option Entries :=
  match entries.lookup key with
  | none => some (entries ++ [(key, .table .headed [])])
  | some (.table .implied held) => some (entries.replace key (.table .headed held))
  | some _ => none

/-- Begins one more of the tables that a header in double brackets names by its last part. -/
def beginHere (key : String) (entries : Entries) : Option Entries :=
  match entries.lookup key with
  | none => some (entries ++ [(key, .tables [[]])])
  | some (.tables items) => some (entries.replace key (.tables (items ++ [[]])))
  | some _ => none

/-- Does something at the end of a header's path. The tables on the way are implied if missing. -/
def descend (f : Entries → Option Entries) : List String → Entries → Option Entries
  | [], entries => f entries
  | part :: rest, entries =>
    match entries.lookup part with
    | none => (descend f rest []).map fun made => entries ++ [(part, .table .implied made)]
    | some (.table standing held) =>
      if standing = .inline then none
      else (descend f rest held).map fun changed => entries.replace part (.table standing changed)
    | some (.tables items) =>
      (changeLast items (descend f rest)).map fun changed => entries.replace part (.tables changed)
    | some _ => none

end UpsMonitor.Toml.Entries
