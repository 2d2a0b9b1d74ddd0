/-
TableQuery/Document/Stamp.lean

Dates and moments as settings files write them.

A date is year, month and day between dashes.  A time follows behind a `T` or
spaces: hours, minutes and seconds between colons, a fraction of which the
first six digits count, and an offset in hours and perhaps minutes, or `Z`.
Month, day and hour can have one digit; an unquoted date without a time has
two for month and day, so one that lacks them is short (`Stamp.isShort`).
-/
import TableQuery.Datum
import TableQuery.Document.Token

namespace TableQuery.Document

/-- The parts of a date or moment as written. -/
structure Stamp where
  date : Nat × Nat × Nat
  /-- The time, and the offset in microseconds, if there is a time. -/
  time : Option (ClockFields × Option Int)
  /-- Whether there is no time and month or day has one digit. -/
  isShort : Bool

namespace Stamp

/-- One or two digits in front, and whether there is only one. -/
def readShort? (cs : List Char) : Option ((Nat × Bool) × List Char) :=
  match Clock.readFixed? 2 cs with
  | some (n, rest) => some ((n, false), rest)
  | none => (Clock.readFixed? 1 cs).map fun (n, rest) => ((n, true), rest)

/-- The text behind a mark in front. -/
def after? (mark : Char) : List Char → Option (List Char)
  | [] => none
  | c :: cs => if c = mark then some cs else none

/-- The text behind what divides date and time. -/
def afterDivider? : List Char → Option (List Char)
  | [] => none
  | c :: cs =>
    if c = 'T' || c = 't' then some cs
    else if isSpacing c then some (cs.dropWhile isSpacing)
    else none

/-- The offset at the end of a text, if there is one. -/
def readOffset? (cs : List Char) : Option (Option Int) :=
  match cs, cs.dropWhile isSpacing with
  | [], _ => some none
  | _, ['Z'] => some (some 0)
  | _, sign :: zone =>
    if sign = '+' || sign = '-' then do
      let ((hours, _), rest) ← readShort? zone
      let (minutes, rest) ← match rest with
        | ':' :: rest => Clock.readFixed? 2 rest
        | rest => some (0, rest)
      let total : Int := (hours * 60 + minutes) * 60000000
      if rest.isEmpty then some (some (if sign = '-' then -total else total)) else none
    else none
  | _, [] => none

/-- Time and offset, to the end of a text. -/
def readTime? (cs : List Char) : Option (ClockFields × Option Int) := do
  let ((hour, _), rest) ← readShort? cs
  let (minute, rest) ← Clock.readFixed? 2 (← after? ':' rest)
  let (second, rest) ← Clock.readFixed? 2 (← after? ':' rest)
  let (fraction, rest) := match rest with
    | '.' :: rest => (rest.takeWhile Char.isDigit, rest.dropWhile Char.isDigit)
    | rest => ([], rest)
  let (microsecond, _) ← Clock.readFixed? 6 (fraction ++ List.replicate 6 '0')
  some (⟨hour, minute, second, microsecond⟩, ← readOffset? rest)

/-- Reads a whole text. -/
def read? (cs : List Char) : Option Stamp := do
  let (year, rest) ← Clock.readFixed? 4 cs
  let ((month, shortMonth), rest) ← readShort? (← after? '-' rest)
  let ((day, shortDay), rest) ← readShort? (← after? '-' rest)
  let date := (year, month, day)
  if rest.isEmpty then some ⟨date, none, shortMonth || shortDay⟩
  else some ⟨date, some (← readTime? (← afterDivider? rest)), false⟩

/-- The date or moment that is written, if it exists. -/
def datum (s : Stamp) : Except TimeError Datum :=
  match s.time with
  | none => do
    let date ← Date.of s.date.1 s.date.2.1 s.date.2.2
    .ok (.date date)
  | some (fields, offset) => do
    let moment ← Moment.ofParts s.date fields offset
    .ok (.moment moment)

end Stamp

end TableQuery.Document
