/-
TableQuery/Datum.lean

Decoded values.

Sheets and configuration files hand over values of mixed kinds: text, whole
and real numbers, truth values, dates, lists, nothing.  A `Datum` is one such
value as decoded, before it becomes a cell or a setting.

A value has two texts.  `Datum.plainText` is the value on its own, as it stands in
a header, a cell or a message.  `Datum.quotedText` is the value inside a list,
where texts are quoted and dates name their kind.

Two values are the same key of a record or a mapping if `Datum.keyForm` is the
same: equal numbers are one key however they are held, and so are equal
instants.

Both texts are there for every value, also for one that holds a whole number
of more digits than a host may be set to write (Number/Notation.lean).
-/
import TableQuery.Number.Exact
import TableQuery.Text.Octets
import TableQuery.Text.Quoted
import TableQuery.Time.Daytime

namespace TableQuery

open Text

/-- A number or a truth value in the form in which columns store it. -/
inductive Stored where
  | boolean (value : Bool)
  | integer (value : Int)
  | real (value : Binary64)

/-- A decoded value. -/
inductive Datum where
  /-- No value. -/
  | missing
  /-- The mark of a value that is not available. -/
  | unavailable
  /-- The mark of a moment that is not known. -/
  | noMoment
  | boolean (value : Bool)
  | integer (value : Int)
  | real (value : Binary64)
  | stored (value : Stored)
  /-- An exact quotient in lowest terms. -/
  | ratio (numerator : Int) (denominator : Nat)
  /-- A decimal number that keeps its scale. -/
  | scaled (value : ScaledNumber)
  | text (value : String)
  /-- Octets that are not known to be text. -/
  | octets (value : List Nat)
  | date (value : Date)
  | moment (value : Moment)
  | clock (value : Daytime)
  | list (items : List Datum)
  /-- Two values as one. -/
  | pair (first second : Datum)
  /-- Values without order, each once. -/
  | distinct (items : List Datum)
  /-- Keys and their values, in order. -/
  | entries (items : List (Datum × Datum))
  /-- The list or mapping that this value is part of. -/
  | enclosing (isMapping : Bool)

namespace Datum

/-! ### Values from their parts -/

/-- The quotient of two integers in lowest terms, the sign on top. -/
def ofQuotient (numerator denominator : Int) : Datum :=
  let divisor := Nat.gcd numerator.natAbs denominator.natAbs
  let top : Int := numerator.natAbs / divisor
  let negative := (numerator < 0) != (denominator < 0)
  .ratio (if negative then -top else top) (denominator.natAbs / divisor)

/-- The number of places that are kept for so many different values: a power of
two, more than twice as many unless there are few. -/
def places (count : Nat) : Nat :=
  if count < 5 then 8 else Nat.pow 2 (Nat.log2 (2 * count) + 1)

/-- The place of a whole number among so many, from the lowest on.  The place of
minus one is that of minus two. -/
def place? (places : Nat) : Datum → Option Nat
  | .boolean b => some (if b then 1 else 0)
  | .integer n => some ((if n = -1 then -2 else n) % places).toNat
  | _ => none

/-- Different values as one value.  Whole numbers stand in the order of their
places, other values in the order in which they come. -/
def ofDistinct (items : List Datum) : Datum :=
  match items.mapM (place? (places items.length)) with
  | some found => .distinct (((items.zip found).mergeSort fun a b => a.2 ≤ b.2).map (·.1))
  | none => .distinct items

/-- A stored value in its common form. -/
def unstored : Datum → Datum
  | .stored (.boolean b) => .boolean b
  | .stored (.integer n) => .integer n
  | .stored (.real x) => .real x
  | d => d

/-! ### Kinds -/

/-- The short name of a value's kind. -/
def kindName : Datum → String
  | .missing => "NoneType"
  | .unavailable => "NAType"
  | .noMoment => "NaTType"
  | .boolean _ => "bool"
  | .integer _ => "int"
  | .real _ => "float"
  | .stored (.boolean _) => "bool"
  | .stored (.integer _) => "int64"
  | .stored (.real _) => "float64"
  | .ratio .. => "Fraction"
  | .scaled _ => "Decimal"
  | .text _ => "str"
  | .octets _ => "bytes"
  | .date _ => "date"
  | .moment _ => "datetime"
  | .clock _ => "time"
  | .list _ => "list"
  | .pair .. => "tuple"
  | .distinct _ => "set"
  | .entries _ => "dict"
  | .enclosing isMapping => if isMapping then "dict" else "list"

/-- The full name of a value's kind, in messages about arguments. -/
def argumentKind : Datum → String
  | .date _ => "datetime.date"
  | .moment _ => "datetime.datetime"
  | .clock _ => "datetime.time"
  | d => d.kindName

/-! ### Texts -/

/-- The text of a truth value. -/
def booleanText (b : Bool) : String :=
  if b then "True" else "False"

/-- A call with numbers, as dates and times are written inside a list. -/
def callText (name : String) (arguments : List String) : String :=
  name ++ "(" ++ ", ".intercalate arguments ++ ")"

/-- The parts of a time that are written inside a list: seconds and
microseconds only up to the last that is not zero. -/
def clockArguments (c : Clock) : List String :=
  let parts :=
    if c.microsecond ≠ 0 then [c.hour, c.minute, c.second, c.microsecond]
    else if c.second ≠ 0 then [c.hour, c.minute, c.second]
    else [c.hour, c.minute]
  parts.map fun (n : Nat) => integerText n

/-- The parts of a date that are written inside a list. -/
def dateArguments (d : Date) : List String :=
  [d.year, d.month, d.day].map fun (n : Nat) => integerText n

/-- The offset of a moment inside a list. -/
def offsetArguments : Option Int → List String
  | none => []
  | some 0 => ["tzinfo=datetime.timezone.utc"]
  | some o => ["tzinfo=" ++ callText "datetime.timezone" [Moment.durationText o]]

/-- A quotient in words of its two numbers; a whole one is written alone. -/
def ratioText (numerator : Int) (denominator : Nat) : String :=
  if denominator = 1 then integerText numerator
  else integerText numerator ++ "/" ++ integerText denominator

/-- A stored value inside a list. -/
def storedText : Stored → String
  | .boolean b => "np." ++ booleanText b ++ "_"
  | .integer n => callText "np.int64" [integerText n]
  | .real x => callText "np.float64" [x.plain]

mutual

/-- The text of a value inside a list. -/
def quotedText : Datum → String
  | .missing => "None"
  | .unavailable => "<NA>"
  | .noMoment => "NaT"
  | .boolean b => booleanText b
  | .integer n => integerText n
  | .real x => x.plain
  | .stored v => storedText v
  | .ratio n d => callText "Fraction" [integerText n, integerText d]
  | .scaled n => callText "Decimal" [quoted n.text]
  | .text s => quoted s
  | .octets o => quotedOctets o
  | .date d => callText "datetime.date" (dateArguments d)
  | .moment m =>
    callText "datetime.datetime"
      (dateArguments m.date ++ clockArguments m.clock ++ offsetArguments m.offset)
  | .clock c => callText "datetime.time" (clockArguments c.clock ++ offsetArguments c.offset)
  | .list items => bracketed (quotedTexts items)
  | .pair a b => callText "" [quotedText a, quotedText b]
  | .distinct [] => "set()"
  | .distinct items => "\x7b" ++ ", ".intercalate (quotedTexts items) ++ "\x7d"
  | .entries items => "\x7b" ++ ", ".intercalate (entryTexts items) ++ "\x7d"
  | .enclosing isMapping => if isMapping then "\x7b...\x7d" else "[...]"

/-- The texts of the items of a list. -/
def quotedTexts : List Datum → List String
  | [] => []
  | d :: ds => quotedText d :: quotedTexts ds

/-- The texts of keys with their values. -/
def entryTexts : List (Datum × Datum) → List String
  | [] => []
  | (k, v) :: rest => (quotedText k ++ ": " ++ quotedText v) :: entryTexts rest

end

/-- The text of a value on its own. -/
def plainText : Datum → String
  | .stored v => (Datum.stored v).unstored.quotedText
  | .ratio n d => ratioText n d
  | .scaled n => n.text
  | .text s => s
  | .date d => String.ofList d.text
  | .moment m => m.spacedText
  | .clock c => c.text
  | d => d.quotedText

/-! ### Keys -/

/-- What two values that are the same key have in common. -/
inductive KeyForm where
  | number (value : ExactNumber)
  /-- Microseconds from a fixed moment. -/
  | instant (microseconds : Int)
  /-- Microseconds from midnight. -/
  | daytime (microseconds : Int)
  /-- The text inside a list, which tells all other values apart. -/
  | text (quoted : String)
  deriving DecidableEq

/-- The number that a value is, whatever its kind.  Truth values are the
numbers one and zero here. -/
def exactNumber? : Datum → Option ExactNumber
  | .boolean b | .stored (.boolean b) => some (.ofInt (if b then 1 else 0))
  | .integer n | .stored (.integer n) => some (.ofInt n)
  | .real x | .stored (.real x) => ExactNumber.ofBinary64? x
  | .ratio n d => some (.ofRatio n d)
  | .scaled n => ExactNumber.ofScaled? n
  | _ => none

/-- The form of a value as a key. -/
def keyForm (d : Datum) : KeyForm :=
  match d.exactNumber? with
  | some n => .number n
  | none =>
    match d with
    | .moment m => (m.instant?.map KeyForm.instant).getD (.text d.quotedText)
    | .clock c => (c.instant?.map KeyForm.daytime).getD (.text d.quotedText)
    | d => .text d.quotedText

/-- Whether two values are the same key. -/
def sameKey (a b : Datum) : Bool := a.keyForm = b.keyForm

/-- Sets the value of a key: in its place if the key is there, otherwise at
the end. -/
def setKey (key value : Datum) : List (Datum × Datum) → List (Datum × Datum)
  | [] => [(key, value)]
  | (k, v) :: rest =>
    if sameKey k key then (k, value) :: rest else (k, v) :: setKey key value rest

/-- Whether a value can be a key: what can grow cannot. -/
def isKey : Datum → Bool
  | .list _ | .distinct _ | .entries _ | .enclosing _ => false
  | .pair a b => a.isKey && b.isKey
  | _ => true

end Datum

end TableQuery
