/-
TableQuery/Time/Daytime.lean

Times of day with an offset from universal time, if it is known.

The text of one is the time and, right behind it, the offset.  The reader
takes the same forms as for the time of a moment, also behind a leading `T`.
-/
import TableQuery.Time.Moment

namespace TableQuery

/-- A time of day, as written down. -/
structure Daytime where
  clock : Clock
  /-- Microseconds ahead of universal time, if the offset is known. -/
  offset : Option Int
  offset_valid : ∀ o ∈ offset, o.natAbs < dayMicroseconds

namespace Daytime

/-- A time without an offset. -/
def naive (clock : Clock) : Daytime := ⟨clock, none, noOffset_valid⟩

/-- The written form. -/
def text (t : Daytime) : String :=
  String.ofList (t.clock.text ++ match t.offset with
    | none => []
    | some o => Moment.offsetText o)

/-- The time of these parts, if there is one.  A long offset is reported before
a time that does not exist. -/
def ofParts (fields : ClockFields) (offset : Option Int) : Except TimeError Daytime :=
  if ho : ∀ o ∈ offset, o.natAbs < dayMicroseconds then do
    .ok ⟨← Clock.of fields, offset, ho⟩
  else .error (.offset (offset.getD 0))

/-- Reads the text of a time. -/
def read (s : String) : Except TimeError Daytime :=
  let cs := match s.toList with
    | 'T' :: cs => cs
    | cs => cs
  match Moment.readTimeParts? cs with
  | some (fields, offset) => ofParts fields offset
  | none => .error (.malformed s)

/-- The microseconds from midnight, universal time, to a time with an offset. -/
def instant? (t : Daytime) : Option Int :=
  t.offset.map fun o => t.clock.microseconds - o

end Daytime

end TableQuery
