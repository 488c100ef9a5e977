/-!
# Scanning

Steps that take a beginning off a text and give what it stands for, or fail and take nothing. They
are put together in sequence, by choice and by repetition.
-/

namespace UpsMonitor.Toml

/-- A step over the rest of a text. -/
abbrev Scan (α : Type) := StateT (List Char) Option α

namespace Scan

variable {α : Type}

/-- One character of a class. -/
def char (accept : Char → Bool) : Scan Char
  | c :: rest => if accept c then some (c, rest) else none
  | [] => none

/-- The longest run of characters of a class. -/
def span (accept : Char → Bool) : Scan (List Char) := fun cs =>
  some (cs.takeWhile accept, cs.dropWhile accept)

/-- The longest run of characters of a class, which must not be empty. -/
def span1 (accept : Char → Bool) : Scan (List Char) := do
  let first ← char accept
  let rest ← span accept
  return first :: rest

/-- A fixed text. -/
def literal (text : String) : Scan Unit := fun cs =>
  if text.toList.isPrefixOf cs then some ((), cs.drop text.length) else none

/-- The end of the text. -/
def atEnd : Scan Unit := fun cs => if cs.isEmpty then some ((), cs) else none

def optional (step : Scan α) : Scan (Option α) := fun cs =>
  match step cs with
  | some (value, rest) => some (some value, rest)
  | none => some (none, cs)

/-- A step repeated until it fails, but at most `limit` times. -/
def manyWithin (step : Scan α) : Nat → Scan (List α)
  | 0 => pure []
  | limit + 1 => fun cs =>
    match step cs with
    | some (value, rest) => (manyWithin step limit rest).map fun (values, rest) => (value :: values, rest)
    | none => some ([], cs)

/-- A step repeated until it fails. The length of the text bounds how often a step that takes
something can succeed. -/
def many (step : Scan α) : Scan (List α) := fun cs => manyWithin step cs.length cs

/-- One or more steps with a separator between them. -/
def sepBy1 (step : Scan α) (separator : Scan Unit) : Scan (List α) := do
  let first ← step
  let rest ← many do
    separator
    step
  return first :: rest

/-- Any number of steps with a separator between them. -/
def sepBy (step : Scan α) (separator : Scan Unit) : Scan (List α) :=
  sepBy1 step separator <|> pure []

/-- A step followed by a check of its value. -/
def guarded (step : Scan α) (accept : α → Bool) : Scan α := do
  let value ← step
  if accept value then return value else failure

end Scan

end UpsMonitor.Toml
