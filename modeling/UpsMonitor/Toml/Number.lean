import UpsMonitor.Toml.Quoted
import UpsMonitor.Toml.Value

/-!
# Numbers

Integers in four bases within 64 bits, and reals within the range of a double.
-/

namespace UpsMonitor.Toml

open Scan

/-- Digits, of which any two may be parted by one underscore. -/
def digitRun (isDigit : Char → Bool) : Scan (List Char) := do
  let first ← char isDigit
  let rest ← many (char isDigit <|> (do literal "_"; char isDigit))
  return first :: rest

/-- A sign, if there is one, and whether it is a minus. -/
def sign : Scan Bool := do
  let sign ← Scan.optional (char fun c => c = '+' || c = '-')
  return sign = some '-'

/-- Decimal digits without a needless zero in front. -/
def wholeDigits : Scan (List Char) :=
  guarded (digitRun Char.isDigit) (fun digits => digits.head? ≠ some '0') <|>
    (do return [← char Char.isDigit])

def maxInteger : Int := 0x7FFFFFFFFFFFFFFF

def minInteger : Int := -0x8000000000000000

/-- An integer of a base, marked by two characters in front. -/
def basedInteger (mark : String) (base : Nat) (isDigit : Char → Bool) : Scan Int := do
  literal mark
  let digits ← digitRun isDigit
  return ofDigits base digits

def decimalInteger : Scan Int := do
  let negative ← sign
  let digits ← wholeDigits
  let magnitude : Int := ofDigits 10 digits
  return if negative then -magnitude else magnitude

def integer : Scan Int :=
  guarded
    (basedInteger "0x" 16 isHexDigit
      <|> basedInteger "0o" 8 (fun c => '0' ≤ c && c ≤ '7')
      <|> basedInteger "0b" 2 (fun c => c = '0' || c = '1')
      <|> decimalInteger)
    fun value => minInteger ≤ value && value ≤ maxInteger

/-- The digits behind a decimal point. -/
def fraction : Scan (List Char) := do
  literal "."
  digitRun Char.isDigit

def exponent : Scan Int := do
  let _ ← char fun c => c = 'e' || c = 'E'
  let negative ← sign
  let digits ← digitRun Char.isDigit
  let magnitude : Int := ofDigits 10 digits
  return if negative then -magnitude else magnitude

/-- The fractional digits, perhaps none, and the exponent. One of the two must be written. -/
def realTail : Scan (List Char × Int) :=
  (do return ([], ← exponent)) <|>
  (do
    let digits ← fraction
    let power ← Scan.optional exponent
    return (digits, power.getD 0))

/-- The least value that a double rounds to infinity: half a unit above the largest one. -/
def overflowBound : Nat := (1 <<< 1024) - (1 <<< 970)

/-- Whether a mantissa times a power of ten rounds to infinity. Exponents out of all proportion are
settled by the count of digits. -/
def overflows (mantissa : Nat) (exponent : Int) : Bool :=
  let magnitude : Int := (toString mantissa).length + exponent
  if mantissa = 0 || magnitude < 300 then false
  else if 400 < magnitude then true
  else if 0 ≤ exponent then overflowBound ≤ mantissa * Nat.pow 10 exponent.toNat
  else overflowBound * Nat.pow 10 (-exponent).toNat ≤ mantissa

/-- A positive number must not round to infinity. -/
def finiteReal : Scan Real := do
  let negative ← sign
  let whole ← wholeDigits
  let (digits, power) ← realTail
  let mantissa := ofDigits 10 (whole ++ digits)
  let exponent := power - digits.length
  if !negative && overflows mantissa exponent then failure
  else return .finite negative mantissa exponent

def specialReal : Scan Real := do
  let negative ← sign
  (do literal "inf"; return .infinite negative) <|> (do literal "nan"; return .notANumber)

def real : Scan Real := finiteReal <|> specialReal

end UpsMonitor.Toml
