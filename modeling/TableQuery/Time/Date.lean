/-
TableQuery/Time/Date.lean

Calendar dates of the years 1 to 9999.

A `Date` carries the proof that it exists.  `Date.of` is the checked
constructor; which of year, month and day is reported when several are wrong
is the order in which they stand.  Dates given by ISO week are found by
counting days from 0001-01-01, which was a Monday.
-/
import TableQuery.Number.Notation

namespace TableQuery

/-- Why a date or a time is refused. -/
inductive TimeError where
  /-- The text is no date and time. -/
  | malformed (text : String)
  | year (value : Nat)
  | month
  | day
  | hour
  | minute
  | second
  /-- The offset, in microseconds, is a day or more. -/
  | offset (microseconds : Int)
  deriving DecidableEq

/-- Leap years, by the Gregorian rule. -/
def isLeapYear (year : Nat) : Bool :=
  year % 4 = 0 && (year % 100 ≠ 0 || year % 400 = 0)

/-- The number of days of a month. -/
def daysInMonth (year month : Nat) : Nat :=
  if month = 2 then (if isLeapYear year then 29 else 28)
  else if month = 4 ∨ month = 6 ∨ month = 9 ∨ month = 11 then 30
  else 31

/-- A date that exists. -/
structure Date where
  year : Nat
  month : Nat
  day : Nat
  year_valid : 1 ≤ year ∧ year ≤ 9999 := by decide
  month_valid : 1 ≤ month ∧ month ≤ 12 := by decide
  day_valid : 1 ≤ day ∧ day ≤ daysInMonth year month := by decide
  deriving DecidableEq

namespace Date

/-- The date of these parts, if there is one. -/
def of (year month day : Nat) : Except TimeError Date :=
  if hy : 1 ≤ year ∧ year ≤ 9999 then
    if hm : 1 ≤ month ∧ month ≤ 12 then
      if hd : 1 ≤ day ∧ day ≤ daysInMonth year month then
        .ok ⟨year, month, day, hy, hm, hd⟩
      else .error .day
    else .error .month
  else .error (.year year)

/-- The written form `YYYY-MM-DD`. -/
def text (d : Date) : List Char :=
  digitsPadded 4 d.year ++ '-' :: (digitsPadded 2 d.month ++ '-' :: digitsPadded 2 d.day)

/-! ### Dates by day number and week -/

/-- The number of days before a year. -/
def daysBeforeYear (year : Nat) : Nat :=
  let past := year - 1
  past * 365 + past / 4 - past / 100 + past / 400

/-- The weekday of the first of January, Monday being 0. -/
def firstWeekday (year : Nat) : Nat :=
  daysBeforeYear year % 7

/-- Finds month and day of a day of the year, counted from 0, from this month
on. -/
def monthAndDay (year : Nat) : Nat → Nat → Nat → Nat × Nat
  | 0, month, rest => (month, rest + 1)
  | further + 1, month, rest =>
    if rest < daysInMonth year month then (month, rest + 1)
    else monthAndDay year further (month + 1) (rest - daysInMonth year month)

/-- The parts of the day that is `days` after 0001-01-01, near this year. -/
def partsOfDay (year days : Nat) : Nat × Nat × Nat :=
  let year :=
    if days < daysBeforeYear year then year - 1
    else if daysBeforeYear (year + 1) ≤ days then year + 1
    else year
  (year, monthAndDay year 11 1 (days - daysBeforeYear year))

/-- The number of days of a year before a month. -/
def daysBeforeMonth (year month : Nat) : Nat :=
  (List.range (month - 1)).foldl (fun days m => days + daysInMonth year (m + 1)) 0

/-- The number of days from 0001-01-01 to a date. -/
def dayNumber (d : Date) : Nat :=
  daysBeforeYear d.year + daysBeforeMonth d.year d.month + (d.day - 1)

/-- The date that is so many days after 0001-01-01, if there is one.  Years
have 365.2425 days on average, so the estimated year is at most one off. -/
def ofDayNumber? (days : Nat) : Option Date :=
  let (year, month, day) := partsOfDay (days * 400 / 146097 + 1) days
  (of year month day).toOption

/-- Whether a year has a 53rd week. -/
def hasLongYear (year : Nat) : Bool :=
  firstWeekday year = 3 || (firstWeekday year = 2 && isLeapYear year)

/-- The parts of a day given by ISO week and weekday (Monday being 1).  The
first week is the one that holds the first Thursday; the last week of year
9999 can end in a year that has no dates, and the weeks of year 0 lie before
the first month. -/
def partsOfWeek? (year week weekday : Nat) : Option (Nat × Nat × Nat) :=
  if ¬ (1 ≤ week ∧ (week ≤ 52 ∨ week = 53 ∧ hasLongYear year)) then none
  else if ¬ (1 ≤ weekday ∧ weekday ≤ 7) then none
  else if year = 0 then some (1, 0, 0)
  else
    let first := firstWeekday year
    let monday := if first ≤ 3 then daysBeforeYear year - first else daysBeforeYear year + 7 - first
    some (partsOfDay year (monday + (week - 1) * 7 + (weekday - 1)))

end Date

end TableQuery
