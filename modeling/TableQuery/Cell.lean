/-
TableQuery/Cell.lean

Cells.

Design.  A decoded value becomes a `Cell` once, in `Cell.of`, and everything
after that works on cells only.  A cell is text, a number, a truth value or
absent.  Whole numbers keep all their digits, yet every number has a value as
a binary64 number (`Amount.value`); the type admits whole numbers of that
range only and no `nan`, so a cell's value is never in doubt.

Two views of a cell carry all questions.  `Cell.plainText` is the text that search,
equality and distributions see.  `Cell.number?` is the number that sorting and
statistics see; text counts when it is a numeral.
-/
import TableQuery.Datum

namespace TableQuery

open Text

/-- Whole numbers from this magnitude on round past the largest binary64
number. -/
def integerBound : Nat := Nat.pow 2 1024 - Nat.pow 2 970

/-- Why a number cannot be held. -/
inductive NumberOverflow where
  | integer
  | quotient
  deriving DecidableEq

/-- The message for a number that cannot be held. -/
def NumberOverflow.message : NumberOverflow → String
  | .integer => "int too large to convert to float"
  | .quotient => "integer division result too large for a float"

/-- A whole number as a binary64 number, if it is in range. -/
def realOfInt (n : Int) : Except NumberOverflow Binary64 :=
  if n.natAbs < integerBound then .ok (.ofInt n) else .error .integer

/-- An exact quotient as a binary64 number, if it is in range. -/
def realOfRatio (numerator : Int) (denominator : Nat) : Except NumberOverflow Binary64 :=
  let x := Binary64.ofQuotient (numerator < 0) numerator.natAbs denominator
  if x.isFinite then .ok x else .error .quotient

/-- The number in a cell. -/
inductive Amount where
  | whole (value : Int) (inRange : value.natAbs < integerBound)
  | real (value : Binary64) (isNumber : value.isNaN = false)
  deriving DecidableEq

/-- Why a value cannot become a cell. -/
inductive CellError where
  | overflow (reason : NumberOverflow)
  /-- The value signals when it is compared. -/
  | signaling
  deriving DecidableEq

/-- The message for a value that cannot become a cell. -/
def CellError.message : CellError → String
  | .overflow reason => reason.message
  | .signaling => "[<class 'decimal.InvalidOperation'>]"

/-- One cell of a sheet. -/
inductive Cell where
  | text (value : String)
  | number (amount : Amount)
  | boolean (value : Bool)
  | absent
  deriving DecidableEq

namespace Amount

/-- The value that comparison and statistics use. -/
def value : Amount → Binary64
  | .whole n _ => .ofInt n
  | .real x _ => x

/-- A number in its shortest form; whole values have no point. -/
def text : Amount → String
  | .whole n _ => integerText n
  | .real x _ => x.brief

end Amount

namespace Cell

instance : Inhabited Cell := ⟨.absent⟩

/-- The cell of a real number; `nan` is absence. -/
def ofReal (x : Binary64) : Cell :=
  if h : x.isNaN = false then .number (.real x h) else .absent

/-- The cell of a whole number, if it is in range. -/
def ofInt (n : Int) : Except CellError Cell :=
  if h : n.natAbs < integerBound then .ok (.number (.whole n h))
  else .error (.overflow .integer)

/-- The cell of a decoded value.  Missing values and values that are no number
are absent, numbers stay numbers if they are in range, and values of any other
kind are kept as their text. -/
def of : Datum → Except CellError Cell
  | .missing | .unavailable | .noMoment => .ok .absent
  | .boolean b => .ok (.boolean b)
  | .integer n | .stored (.integer n) => ofInt n
  | .real x | .stored (.real x) => .ok (ofReal x)
  | .ratio n d => (ofReal <$> realOfRatio n d).mapError .overflow
  | .scaled (.notNumber _ signaling _) => if signaling then .error .signaling else .ok .absent
  | .text s => .ok (.text s)
  | d => .ok (.text d.plainText)

/-- Whether there is no value. -/
def isAbsent : Cell → Bool
  | .absent => true
  | _ => false

/-- Absent, or empty text. -/
def isEmpty : Cell → Bool
  | .absent => true
  | .text s => s = ""
  | _ => false

/-- The text that search, equality and distributions see. -/
def plainText : Cell → String
  | .text s => s
  | .number a => a.text
  | .boolean b => if b then "true" else "false"
  | .absent => ""

/-- The number that sorting and statistics see.  Truth values and absent cells
have none; text has one when it is a numeral. -/
def number? : Cell → Option Binary64
  | .number a => some a.value
  | .text s => readNumber? s
  | _ => none

/-- The text shown in a table: the same that search and equality see. -/
def shown (c : Cell) : String := c.plainText

/-! ### Comparison -/

/-- What comparison looks at: the number, if there is one, and the text. -/
structure Key where
  number? : Option Binary64
  text : String

/-- The key of a cell. -/
def key (c : Cell) : Key := ⟨c.number?, c.plainText⟩

/-- Two keys with numbers compare as numbers, any others as texts. -/
def Key.order (a b : Key) : Ordering :=
  match a.number?, b.number? with
  | some x, some y => Binary64.order x y
  | _, _ => compare a.text b.text

/-- Three-way comparison of cells: as numbers when both have one, otherwise as
texts by code point. -/
def order (a b : Cell) : Ordering := Key.order a.key b.key

end Cell

end TableQuery
