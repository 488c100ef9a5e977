import UpsMonitor.Toml.Moment
import UpsMonitor.Toml.Number
import UpsMonitor.Toml.Table

/-!
# Grammar

Keys, values and the lines of a document.
-/

namespace UpsMonitor.Toml

open Scan

def blanks : Scan Unit := do let _ ← span isBlank

def comment : Scan Unit := do
  literal "#"
  let _ ← span isPlain

/-- What may follow a header or a value on its line. -/
def lineEnd : Scan Unit := do
  blanks
  let _ ← Scan.optional comment
  newline <|> atEnd

/-- Blanks, comments and line breaks between the items of an array. -/
def gaps : Scan Unit := do
  let _ ← many ((do let _ ← span1 isBlank) <|> (do let _ ← Scan.optional comment; newline))

/-- No key has as many parts as this, and arrays and inline tables do not nest as deep. -/
def depthLimit : Nat := 80

def isBare (c : Char) : Bool := c.isAlphanum || c = '-' || c = '_'

def simpleKey : Scan String := do
  let text ← basicText <|> literalText <|> span1 isBare
  return String.ofList text

/-- A key with a dot between any two of its parts. -/
def dottedKey : Scan (List String) :=
  guarded
    (sepBy1 (do blanks; let key ← simpleKey; blanks; return key) (literal "."))
    (·.length < depthLimit)

/-- A key and its value. -/
def pair (value : Scan Value) : Scan (List String × Value) := do
  let key ← dottedKey
  literal "="
  blanks
  return (key, ← value)

/-- Adds a value under the last part of a key. -/
def insertPair (entries : Entries) : List String × Value → Option Entries
  | (key, value) => entries.insert key.dropLast (key.getLastD "") value

/-- Items in brackets, perhaps with a comma behind the last. -/
def array (value : Scan Value) : Scan Value := do
  literal "["
  let items ← sepBy (do gaps; let item ← value; gaps; return item) (literal ",")
  unless items.isEmpty do
    let _ ← Scan.optional (literal ",")
  gaps
  literal "]"
  return .array items

/-- Pairs in braces. -/
def inlineTable (value : Scan Value) : Scan Value := do
  literal "\x7b"
  let pairs ← sepBy (do let entry ← pair value; blanks; return entry) (literal ",")
  blanks
  literal "\x7d"
  match pairs.foldlM insertPair [] with
  | some entries => return .table .inline entries
  | none => failure

def scalar : Scan Value :=
  (do return .text (← quotedText))
    <|> (do return .moment (← moment))
    <|> (do return .real (← real))
    <|> (do return .integer (← integer))
    <|> (do literal "true"; return .flag true)
    <|> (do literal "false"; return .flag false)

/-- A value with at most `depth` levels of brackets. -/
def value : Nat → Scan Value
  | 0 => scalar
  | depth + 1 => scalar <|> array (value depth) <|> inlineTable (value depth)

/-- A line of a document, blank lines and comments left out. -/
inductive Line
  | header (path : List String)
  /-- A header in double brackets. -/
  | element (path : List String)
  | pair (key : List String) (value : Value)

def line : Scan (Option Line) :=
  (do
    comment
    newline <|> atEnd
    return none)
    <|> (do newline; return none)
    <|> (do
      literal "[["
      let path ← dottedKey
      literal "]]"
      lineEnd
      return some (.element path))
    <|> (do
      literal "["
      let path ← dottedKey
      literal "]"
      lineEnd
      return some (.header path))
    <|> (do
      let (key, value) ← pair (value (depthLimit - 1))
      lineEnd
      return some (.pair key value))

/-- All lines of a document, behind a byte order mark if there is one. -/
def lines : Scan (List Line) := do
  let _ ← Scan.optional (literal "\uFEFF")
  blanks
  let lines ← many do
    let line ← line
    blanks
    return line
  atEnd
  return lines.filterMap id

end UpsMonitor.Toml
