import UpsMonitor.Toml.Scan

/-!
# Quoted text

The four forms of text in TOML: in quotation marks with escapes, in apostrophes without, and each of
them over several lines.
-/

namespace UpsMonitor.Toml

open Scan

def isAscii (c : Char) : Bool := c.toNat < 0x80

/-- Blanks within a line. -/
def isBlank (c : Char) : Bool := c = ' ' || c = '\t'

/-- Whatever may stand in a comment: no control character but the tab. -/
def isPlain (c : Char) : Bool := c = '\t' || (0x20 ≤ c.toNat && c.toNat ≤ 0x7E) || !isAscii c

def newline : Scan Unit := literal "\n" <|> literal "\r\n"

def isHexDigit (c : Char) : Bool :=
  c.isDigit || ('a' ≤ c && c ≤ 'f') || ('A' ≤ c && c ≤ 'F')

def hexValue (c : Char) : Nat :=
  if c.isDigit then c.toNat - 48 else if 'a' ≤ c then c.toNat - 87 else c.toNat - 55

/-- The number that digits spell in a base. -/
def ofDigits (base : Nat) (digits : List Char) : Nat :=
  digits.foldl (fun value c => value * base + hexValue c) 0

/-- The character of a code point given in exactly `count` hexadecimal digits. -/
def codePoint (count : Nat) : Scan Char := fun cs =>
  let digits := cs.take count
  let point := ofDigits 16 digits
  if digits.length = count ∧ digits.all isHexDigit ∧ point.isValidChar then
    some (.ofNat point, cs.drop count)
  else none

/-- What a backslash and the characters behind it stand for. -/
def escaped : Scan Char := do
  literal "\\"
  match ← char fun _ => true with
  | 'b' => return '\x08'
  | 'f' => return '\x0c'
  | 'n' => return '\n'
  | 'r' => return '\r'
  | 't' => return '\t'
  | '"' => return '"'
  | '\\' => return '\\'
  | 'u' => codePoint 4
  | 'U' => codePoint 8
  | _ => failure

/-- Characters that stand for themselves between quotation marks. -/
def isBasic (c : Char) : Bool := isPlain c && c ≠ '"' && c ≠ '\\'

/-- Characters that stand for themselves between apostrophes. -/
def isLiteral (c : Char) : Bool := isPlain c && c ≠ '\''

/-- Text in quotation marks, on one line. -/
def basicText : Scan (List Char) := do
  literal "\""
  let text ← many (char isBasic <|> escaped)
  literal "\""
  return text

/-- Text in apostrophes, on one line. -/
def literalText : Scan (List Char) := do
  literal "'"
  let text ← span isLiteral
  literal "'"
  return text

/-- A backslash at the end of a line takes away the line break and all blanks and breaks behind. -/
def continuation : Scan (List Char) := do
  literal "\\"
  let _ ← span isBlank
  newline
  let _ ← many (newline <|> (do let _ ← span1 isBlank))
  return []

/-- One or two quotes are part of a text over several lines. -/
def innerQuotes (quote : Char) : Scan (List Char) :=
  guarded (span (· = quote)) fun quotes => quotes.length = 1 || quotes.length = 2

/-- Three quotes end a text over several lines. Up to two right before them belong to it. -/
def closingQuotes (quote : Char) : Scan (List Char) := do
  let quotes ← guarded (span (· = quote)) fun quotes => 3 ≤ quotes.length && quotes.length ≤ 5
  return quotes.drop 3

/-- Any line break reads as a line feed. -/
def lineFeed : Scan (List Char) := do
  newline
  return ['\n']

/-- Text between triple quotes. A line break right behind the first three is dropped. -/
def multilineText (quote : Char) (piece : Scan (List Char)) : Scan (List Char) := do
  literal (String.ofList [quote, quote, quote])
  let _ ← Scan.optional newline
  let pieces ← many (piece <|> lineFeed <|> innerQuotes quote)
  let last ← closingQuotes quote
  return pieces.flatten ++ last

def multilineBasicText : Scan (List Char) :=
  multilineText '"' (span1 isBasic <|> continuation <|> (do return [← escaped]))

def multilineLiteralText : Scan (List Char) := multilineText '\'' (span1 isLiteral)

def quotedText : Scan String := do
  let text ← multilineBasicText <|> basicText <|> multilineLiteralText <|> literalText
  return String.ofList text

end UpsMonitor.Toml
