/-
TableQuery/Sheet/Serial.lean

Dates and times as the numbers that a workbook file holds.

A file counts days from 1899-12-30 and keeps the time of day as a fraction of
the day.  It takes the year 1900 for a leap year, so the days from 1899-12-31
to 1900-02-28 have a number one less than their distance.

A number is read back to the millisecond.  One below 1 is a time of day, unless
it rounds up to a whole day; hence the days before 1900 that have such a number
come back as a time.
-/
import TableQuery.Datum

namespace TableQuery.Serial

/-- The day number of 1899-12-30. -/
def epoch : Nat := 693593

/-- The day number up to which a file counts one day less, from the epoch on. -/
def shiftedDays : Int := 60

/-- A time of day as a fraction of the day, each step rounded. -/
def ofClock (c : Clock) : Binary64 :=
  let whole : Int := ((c.hour * 3600 + c.minute * 60 + c.second : Nat) : Int)
  ((Binary64.ofInt whole).add (.ofQuotient false c.microsecond 1000000)).divCount 86400

/-- A date with its time of day. -/
def ofDateTime (d : Date) (c : Clock) : Binary64 :=
  let days : Int := (d.dayNumber : Int) - epoch
  let days := if 0 < days && days ≤ shiftedDays then days - 1 else days
  (Binary64.ofInt days).add (ofClock c)

/-- The days and the fraction of a day in a number. -/
def divide (x : Binary64) : Option (Int × Binary64) :=
  match x with
  | .finite negative units _ =>
    let whole := units / Binary64.unitsPerOne
    let rest := Binary64.ofUnits false (units % Binary64.unitsPerOne) 1
    if !negative || units = 0 then some (whole, rest)
    else if units % Binary64.unitsPerOne = 0 then some (-whole, rest)
    else some (-(whole + 1), (Binary64.ofInt 1).add rest.negate)
  | _ => none

/-- The milliseconds of a fraction of a day. -/
def milliseconds (fraction : Binary64) : Nat :=
  match (fraction.mul (.ofInt 86400)).mul (.ofInt 1000) with
  | .finite _ units _ => roundQuotient units Binary64.unitsPerOne
  | _ => 0

/-- A day in milliseconds. -/
def dayMilliseconds : Nat := 86400000

/-- The date or the time that a number stands for, if there is one. -/
def read? (x : Binary64) : Option Datum := do
  let (days, fraction) ← divide x
  let ms := milliseconds fraction
  if days = 0 && ms < dayMilliseconds then
    some (.clock (.naive (.ofMicroseconds (ms * 1000))))
  else
    let positive := Binary64.less (.zero false) x
    let days := if positive && days < shiftedDays then days + 1 else days
    let day : Int := (epoch : Int) + days + Int.ofNat (ms / dayMilliseconds)
    if day < 0 then none
    else do
      let date ← Date.ofDayNumber? day.toNat
      some (.moment (.naive date (.ofMicroseconds (ms % dayMilliseconds * 1000))))

end TableQuery.Serial
