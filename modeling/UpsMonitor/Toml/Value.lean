/-!
# TOML values

The values of a document. A table remembers how it came to be, because that decides what may still
be added to it.
-/

namespace UpsMonitor.Toml

/-- A number with a fraction or an exponent. -/
inductive Real
  /-- The mantissa times a power of ten. -/
  | finite (negative : Bool) (mantissa : Nat) (exponent : Int)
  | infinite (negative : Bool)
  | notANumber
  deriving DecidableEq

structure Date where
  year : Nat
  month : Nat
  day : Nat
  deriving DecidableEq

structure Time where
  hour : Nat
  minute : Nat
  second : Nat
  /-- The digits behind the point. -/
  fraction : List Char
  deriving DecidableEq

/-- A date, a time of day, or both, perhaps with an offset from universal time in minutes. -/
inductive Moment
  | date (date : Date)
  | time (time : Time)
  | dateTime (date : Date) (time : Time) (offset : Option Int)
  deriving DecidableEq

/-- How a table came to be. -/
inductive Standing
  /-- In braces. Nothing can be added. -/
  | inline
  /-- By a header of its own. -/
  | headed
  /-- Named in the header of a table inside it. -/
  | implied
  /-- By a dotted key. -/
  | dotted
  deriving DecidableEq

inductive Value
  | text (value : String)
  | integer (value : Int)
  | real (value : Real)
  | flag (value : Bool)
  | moment (value : Moment)
  | array (items : List Value)
  | table (standing : Standing) (entries : List (String × Value))
  /-- Tables under headers in double brackets. -/
  | tables (items : List (List (String × Value)))

/-- The entries of a table, in the order in which they were made. -/
abbrev Entries := List (String × Value)

end UpsMonitor.Toml
