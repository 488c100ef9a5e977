/-!
# JSON text

Compact JSON: no blanks, and only the escapes that the format demands. This stands for a general
library of the format, as far as records and states are written with it.
-/

namespace UpsMonitor.Json

/-- One hexadecimal digit, in lower case. -/
def hexDigit (value : Nat) : Char := if value < 10 then .ofNat (48 + value) else .ofNat (87 + value)

/-- How a character stands in a quoted text. -/
def escape (c : Char) : List Char :=
  match c with
  | '"' => ['\\', '"']
  | '\\' => ['\\', '\\']
  | '\x08' => ['\\', 'b']
  | '\t' => ['\\', 't']
  | '\n' => ['\\', 'n']
  | '\x0c' => ['\\', 'f']
  | '\r' => ['\\', 'r']
  | c =>
    if c.toNat < 0x20 then ['\\', 'u', '0', '0', hexDigit (c.toNat / 16), hexDigit (c.toNat % 16)]
    else [c]

def quoted (text : String) : String :=
  String.ofList ('"' :: text.toList.flatMap escape ++ ['"'])

def bool (value : Bool) : String := if value then "true" else "false"

/-- A list of values that are text already. -/
def list (items : List String) : String := "[" ++ ",".intercalate items ++ "]"

/-- A record of values that are text already. -/
def record (fields : List (String × String)) : String :=
  "\x7b" ++ ",".intercalate (fields.map fun (key, value) => quoted key ++ ":" ++ value) ++ "\x7d"

end UpsMonitor.Json
