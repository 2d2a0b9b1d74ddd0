/-
TableQuery/Time/Moment.lean

Moments: a date, a time of day, and perhaps an offset from universal time.

A moment has one written form, `Moment.isoText`: the date, a `T`, the time,
and the offset if there is one.  The reader accepts many more: dates without
dashes, dates by week, any one character between date and time, no time at
all, and `Z` for no offset.  Where a text could be divided in two ways, the
position of the divider follows from its first characters
(`dateLength?`).

Offsets are kept in microseconds and are shorter than a day.
-/
import TableQuery.Text.Quoted
import TableQuery.Time.Clock

namespace TableQuery

/-- A day in microseconds. -/
def dayMicroseconds : Nat := 86400000000

/-- No offset is a day or longer. -/
theorem noOffset_valid : ∀ o ∈ (none : Option Int), o.natAbs < dayMicroseconds := by simp

/-- A point in time, as written down. -/
structure Moment where
  date : Date
  clock : Clock
  /-- Microseconds ahead of universal time, if the offset is known. -/
  offset : Option Int
  offset_valid : ∀ o ∈ offset, o.natAbs < dayMicroseconds
  deriving DecidableEq

namespace Moment

/-- A moment without an offset. -/
def naive (date : Date) (clock : Clock) : Moment :=
  ⟨date, clock, none, noOffset_valid⟩

/-! ### Writing -/

/-- The written offset: sign, hours and minutes, then seconds and a fraction
only if there are any. -/
def offsetText (o : Int) : List Char :=
  let total := o.natAbs
  let seconds := total / 1000000
  let fraction := total % 1000000
  let sign := if o < 0 then '-' else '+'
  let tail :=
    if seconds % 60 = 0 ∧ fraction = 0 then []
    else ':' :: (digitsPadded 2 (seconds % 60) ++ Clock.fractionText fraction)
  sign :: (digitsPadded 2 (seconds / 3600) ++ ':' :: (digitsPadded 2 (seconds / 60 % 60) ++ tail))

/-- The moment with this character between date and time. -/
def textWith (divider : Char) (m : Moment) : String :=
  String.ofList (m.date.text ++ divider :: (m.clock.text ++
    match m.offset with
    | none => []
    | some o => offsetText o))

/-- The written form of a moment on its own. -/
def isoText (m : Moment) : String := m.textWith 'T'

/-- The written form of a moment in running text. -/
def spacedText (m : Moment) : String := m.textWith ' '

/-! ### Reading -/

/-- The number of characters of the date in a text, if a divider or the end
can be found. -/
def dateLength? (cs : List Char) : Option Nat :=
  let n := cs.length
  let charAt (i : Nat) : Option Char := cs[i]?
  let digitAt (i : Nat) : Bool := (charAt i).any Char.isDigit
  if n < 7 then none
  else if n = 7 then some 7
  else if charAt 4 = some '-' then
    if charAt 5 = some 'W' then
      if charAt 8 = some '-' then
        if n = 9 then none
        else if digitAt 10 then some 8
        else some 10
      else some 8
    else some 10
  else if charAt 4 = some 'W' then
    -- an even run of digits after the week leaves none for the weekday
    let stop := 7 + ((cs.drop 7).takeWhile Char.isDigit).length
    if stop < 9 then some stop
    else if stop % 2 = 0 then some 7
    else some 8
  else some 8

/-- Year, month and day from the text of a date of this length; by week if a
`W` follows the year. -/
def readDateParts? (length : Nat) (cs : List Char) : Option (Nat × Nat × Nat) := do
  let (year, rest) ← Clock.readFixed? 4 cs
  let dashed := rest.head? = some '-'
  let dash (cs : List Char) : Option (List Char) :=
    if dashed then (if cs.head? = some '-' then some cs.tail else none) else some cs
  let rest ← dash rest
  if rest.head? = some 'W' then
    let (week, rest) ← Clock.readFixed? 2 rest.tail
    if cs.length - rest.length < length then
      let (weekday, _) ← Clock.readFixed? 1 (← dash rest)
      Date.partsOfWeek? year week weekday
    else Date.partsOfWeek? year week 1
  else
    let (month, rest) ← Clock.readFixed? 2 rest
    let (day, _) ← Clock.readFixed? 2 (← dash rest)
    some (year, month, day)

/-- Time and offset from the text behind the divider. -/
def readTimeParts? (cs : List Char) : Option (ClockFields × Option Int) := do
  let isZone (c : Char) : Bool := c = '+' || c = '-' || c = 'Z'
  let (fields, leftover) ← Clock.readFields? (cs.takeWhile (!isZone ·))
  match cs.dropWhile (!isZone ·) with
  | [] => if leftover then none else some (fields, none)
  | ['Z'] => some (fields, some 0)
  | 'Z' :: _ => none
  | sign :: zone =>
    let (z, leftover) ← Clock.readFields? zone
    if leftover then none
    else
      let seconds := z.hour * 3600 + z.minute * 60 + z.second
      -- an offset of no whole second is no offset, whatever its fraction
      let total : Int := if seconds = 0 then 0 else seconds * 1000000 + z.microsecond
      some (fields, some (if sign = '-' then -total else total))

/-- All parts of a moment's text. -/
def readParts? (cs : List Char) : Option ((Nat × Nat × Nat) × ClockFields × Option Int) := do
  let length ← dateLength? cs
  let date ← readDateParts? length cs
  if cs.length ≤ length then some (date, {}, none)
  else
    let (fields, offset) ← readTimeParts? (cs.drop (length + 1))
    some (date, fields, offset)

/-- The moment of these parts, if there is one.  A long offset is reported
before a date or a time that does not exist. -/
def ofParts (date : Nat × Nat × Nat) (fields : ClockFields) (offset : Option Int) :
    Except TimeError Moment :=
  if ho : ∀ o ∈ offset, o.natAbs < dayMicroseconds then do
    let date ← Date.of date.1 date.2.1 date.2.2
    let clock ← Clock.of fields
    .ok ⟨date, clock, offset, ho⟩
  else .error (.offset (offset.getD 0))

/-- Reads a moment's text. -/
def read (s : String) : Except TimeError Moment :=
  match readParts? s.toList with
  | none => .error (.malformed s)
  | some (date, fields, offset) => ofParts date fields offset

/-- Reads the text of a date alone, which has one of three lengths, counted in
octets.  Text behind a date without dashes is passed over. -/
def readDate (s : String) : Except TimeError Date :=
  let length := s.utf8ByteSize
  let parts? := if [7, 8, 10].contains length then readDateParts? length s.toList else none
  match parts? with
  | none => .error (.malformed s)
  | some (year, month, day) => Date.of year month day

/-! ### Instants -/

/-- The microseconds from the start of 0001-01-01, universal time, to a moment
with an offset. -/
def instant? (m : Moment) : Option Int :=
  m.offset.map fun o => m.date.dayNumber * dayMicroseconds + m.clock.microseconds - o

/-! ### Messages -/

/-- A length of time in a message: days, seconds and microseconds, the days
carrying the sign and parts that are zero left out. -/
def durationText (microseconds : Int) : String :=
  let days := microseconds.fdiv dayMicroseconds
  let rest := microseconds.fmod dayMicroseconds
  let parts := [("days", days), ("seconds", rest / 1000000), ("microseconds", rest % 1000000)]
  let written := (parts.filter (·.2 ≠ 0)).map fun (name, n) => name ++ "=" ++ integerText n
  "datetime.timedelta(" ++ ", ".intercalate (if written.isEmpty then ["0"] else written) ++ ")"

end Moment

/-- The message for a date or a time that is refused. -/
def TimeError.message : TimeError → String
  | .malformed s => "Invalid isoformat string: " ++ Text.quoted s
  | .year n => "year " ++ integerText n ++ " is out of range"
  | .month => "month must be in 1..12"
  | .day => "day is out of range for month"
  | .hour => "hour must be in 0..23"
  | .minute => "minute must be in 0..59"
  | .second => "second must be in 0..59"
  | .offset o =>
    "offset must be a timedelta strictly between -timedelta(hours=24) and timedelta(hours=24), not "
      ++ Moment.durationText o ++ "."

end TableQuery
