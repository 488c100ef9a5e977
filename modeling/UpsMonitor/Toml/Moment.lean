import UpsMonitor.Toml.Quoted
import UpsMonitor.Toml.Value

/-!
# Dates and times

Calendar dates, times of day down to fractions of a second, and offsets from universal time.
-/

namespace UpsMonitor.Toml

open Scan

/-- A number of exactly `count` decimal digits. -/
def fixedDigits (count : Nat) : Scan Nat := fun cs =>
  let digits := cs.take count
  if digits.length = count ∧ digits.all Char.isDigit then some (ofDigits 10 digits, cs.drop count)
  else none

def isLeapYear (year : Nat) : Bool := year % 4 = 0 && (year % 100 ≠ 0 || year % 400 = 0)

def daysIn (year month : Nat) : Nat :=
  match month with
  | 2 => if isLeapYear year then 29 else 28
  | 4 | 6 | 9 | 11 => 30
  | _ => 31

def date : Scan Date := do
  let year ← fixedDigits 4
  literal "-"
  let month ← guarded (fixedDigits 2) fun month => 1 ≤ month && month ≤ 12
  literal "-"
  let day ← guarded (fixedDigits 2) fun day => 1 ≤ day && day ≤ daysIn year month
  return { year, month, day }

def hour : Scan Nat := guarded (fixedDigits 2) (· ≤ 23)

def minute : Scan Nat := guarded (fixedDigits 2) (· ≤ 59)

/-- A minute may have a leap second. -/
def time : Scan Time := do
  let hour ← hour
  literal ":"
  let minute ← minute
  literal ":"
  let second ← guarded (fixedDigits 2) (· ≤ 60)
  let fraction ← Scan.optional do
    literal "."
    span1 Char.isDigit
  return { hour, minute, second, fraction := fraction.getD [] }

/-- Minutes ahead of universal time. -/
def offset : Scan Int :=
  (do let _ ← char (fun c => c = 'Z' || c = 'z'); return 0) <|>
  (do
    let sign ← char fun c => c = '+' || c = '-'
    let hours ← hour
    literal ":"
    let minutes ← minute
    let total : Int := hours * 60 + minutes
    return if sign = '-' then -total else total)

/-- A time behind a date, and its offset if it has one. -/
def timeOfDate : Scan (Time × Option Int) := do
  let _ ← char fun c => c = 'T' || c = 't' || c = ' '
  let time ← time
  let offset ← Scan.optional offset
  return (time, offset)

def moment : Scan Moment :=
  (do
    let date ← date
    match ← Scan.optional timeOfDate with
    | some (time, offset) => return .dateTime date time offset
    | none => return .date date) <|>
  (do return .time (← time))

end UpsMonitor.Toml
