/-!
# Local time

A reading of the clock, and the two ways in which it is written. This stands for a general library
of dates: how the system tells local time and its offset is left out, and any reading may come.
-/

namespace UpsMonitor.Telemetry

structure LocalTime where
  year : Fin 10000
  month : Fin 13
  day : Fin 32
  hour : Fin 24
  minute : Fin 60
  second : Fin 61
  nanosecond : Fin 1000000000
  /-- Minutes ahead of universal time. -/
  offset : Int
  deriving DecidableEq

/-- The lowest decimal digits of a number, `width` of them. -/
def digits : Nat → Nat → List Char
  | 0, _ => []
  | width + 1, value => digits width (value / 10) ++ [Char.ofNat (48 + value % 10)]

@[simp] theorem length_digits (width value : Nat) : (digits width value).length = width := by
  induction width generalizing value with
  | zero => rfl
  | succ width ih => simp [digits, ih]

/-- A number in at least `width` digits. -/
def padded (width value : Nat) : String :=
  "".pushn '0' (width - (toString value).length) ++ toString value

namespace LocalTime

/-- Date and time in fifteen characters. Later times sort behind earlier ones. -/
def stamp (time : LocalTime) : String :=
  String.ofList (digits 4 time.year ++ digits 2 time.month ++ digits 2 time.day ++ ['_']
    ++ digits 2 time.hour ++ digits 2 time.minute ++ digits 2 time.second)

/-- Fractions of a second, in as many groups of three digits as they need. -/
def fraction (nanosecond : Nat) : List Char :=
  if nanosecond = 0 then []
  else if nanosecond % 1000000 = 0 then '.' :: digits 3 (nanosecond / 1000000)
  else if nanosecond % 1000 = 0 then '.' :: digits 6 (nanosecond / 1000)
  else '.' :: digits 9 nanosecond

/-- Date, time and offset in the form of an internet timestamp. -/
def timestamp (time : LocalTime) : String :=
  String.ofList (digits 4 time.year ++ '-' :: digits 2 time.month ++ '-' :: digits 2 time.day
    ++ 'T' :: digits 2 time.hour ++ ':' :: digits 2 time.minute ++ ':' :: digits 2 time.second
    ++ fraction time.nanosecond
    ++ (if time.offset < 0 then '-' else '+') :: digits 2 (time.offset.natAbs / 60)
    ++ ':' :: digits 2 (time.offset.natAbs % 60))

end LocalTime

end UpsMonitor.Telemetry
