import BrowserAct.Decimal.Layout

/-!
# Points in time

Clock readings are nanoseconds since the start of 1970. A timestamp splits one into seconds and
nanoseconds and is shown as a date of the Gregorian calendar in universal time.
-/

namespace BrowserAct

/-- A reading of the clock, in nanoseconds since the start of 1970. -/
abbrev Moment := Nat

abbrev Duration := Nat

/-- A point in time: seconds since the start of 1970 and nanoseconds. Nanoseconds of a whole second or
more stand for a leap second. -/
structure Timestamp where
  seconds : Int
  nanos : Nat
deriving DecidableEq

namespace Timestamp

def ofMoment (moment : Moment) : Timestamp :=
  ⟨(moment / 1_000_000_000 : Nat), moment % 1_000_000_000⟩

/-- The year, month and day of a number of days since the start of 1970. A year is taken to start in
March, so that the leap day is its last. -/
def civil (days : Int) : Int × Nat × Nat :=
  let shifted := days + 719468
  let era := shifted / 146097
  let dayOfEra := (shifted % 146097).toNat
  let yearOfEra := (dayOfEra - dayOfEra / 1460 + dayOfEra / 36524 - dayOfEra / 146096) / 365
  let dayOfYear := dayOfEra - (365 * yearOfEra + yearOfEra / 4 - yearOfEra / 100)
  let marchMonth := (5 * dayOfYear + 2) / 153
  let day := dayOfYear - (153 * marchMonth + 2) / 5 + 1
  let month := if marchMonth < 10 then marchMonth + 3 else marchMonth - 9
  let year := yearOfEra + era * 400 + (if month ≤ 2 then 1 else 0)
  (year, month, day)

/-- A number with at least `width` digits. -/
def padded (width n : Nat) : String :=
  String.ofList (Decimal.padZeros width (Decimal.digitChars n))

/-- A year has four digits; one that needs more, or lies before year zero, has a sign. -/
def showYear (year : Int) : String :=
  if 0 ≤ year ∧ year ≤ 9999 then padded 4 year.natAbs
  else (if year < 0 then "-" else "+") ++ padded 4 year.natAbs

/-- Date, time of day with six places, and the offset from universal time. -/
def render (t : Timestamp) : String :=
  let (year, month, day) := civil (t.seconds / 86400)
  let secondOfDay := (t.seconds % 86400).toNat
  let second := secondOfDay % 60 + t.nanos / 1_000_000_000
  let micros := t.nanos % 1_000_000_000 / 1000
  showYear year ++ "-" ++ padded 2 month ++ "-" ++ padded 2 day ++ " "
    ++ padded 2 (secondOfDay / 3600) ++ ":" ++ padded 2 (secondOfDay / 60 % 60) ++ ":"
    ++ padded 2 second ++ "." ++ padded 6 micros ++ " +00:00"

example : civil 0 = (1970, 1, 1) := by decide
example : civil 11016 = (2000, 2, 29) := by decide
example : civil (-719529) = (-1, 12, 31) := by decide

end Timestamp

end BrowserAct
