/-
TableQuery/Sheet/Stored.lean

What a workbook file keeps of a value.

A file holds numbers, truth values, dates and texts.  Numbers have sixteen
significant digits there, and a whole one comes back as a whole number.  A
value that is no number is kept as a blank, and so is a formula, because it is
never evaluated; the name of an error comes back as a value that is no number.
Line ends in a text come back as line feeds, and marks for underscores not at
all.

Values of other kinds cannot be put into a file (`StorageError`).
-/
import TableQuery.Cell
import TableQuery.Number.Significant
import TableQuery.Sheet.Serial

namespace TableQuery

open Text

/-! ### Values that a file cannot hold -/

/-- Why a value cannot be put into a file. -/
inductive StorageError where
  /-- There is no way to write a value of this kind; a message writes it so. -/
  | unknownKind (written : String)
  /-- The text holds a control character. -/
  | controlCharacter (text : String)
  /-- A file has no offsets. -/
  | offset
  | overflow (reason : NumberOverflow)
  /-- A signaling value is not turned into a real number. -/
  | signaling
  /-- No sheet has this character in its name. -/
  | nameCharacter (c : Char)
  deriving DecidableEq

/-- The message for a value that a file cannot hold. -/
def StorageError.message : StorageError → String
  | .unknownKind written => "Cannot convert " ++ written ++ " to Excel"
  | .controlCharacter text => text ++ " cannot be used in worksheets."
  | .offset =>
    "Excel does not support timezones in datetimes. " ++
      "The tzinfo in the datetime/time object must be set to None."
  | .overflow reason => reason.message
  | .signaling => "cannot convert signaling NaN to float"
  | .nameCharacter c => "Invalid character " ++ String.singleton c ++ " found in sheet title"

/-- The longest text that a file keeps. -/
def maxTextLength : Nat := 32767

/-- The control characters that no text of a file may hold. -/
def isForbiddenControl (c : Char) : Bool :=
  c.toNat < 0x20 && c ≠ '\t' && c ≠ '\n' && c ≠ '\r'

namespace Datum

/-- Why a value is refused as soon as it is put into a cell. -/
def placementError? : Datum → Option StorageError
  | .text s =>
    let kept := s.toList.take maxTextLength
    if kept.any isForbiddenControl then some (.controlCharacter (String.ofList kept)) else none
  | .missing | .noMoment | .boolean _ | .integer _ | .real _ | .stored _ | .scaled _ | .date _
  | .moment _ | .clock _ => none
  | d => some (.unknownKind d.quotedText)

/-- Why a value is refused when the file is written. -/
def writingError? : Datum → Option StorageError
  | .integer n =>
    match realOfInt n with
    | .ok _ => none
    | .error reason => some (.overflow reason)
  | .scaled (.notNumber _ true _) => some .signaling
  | .moment m => if m.offset.isSome then some .offset else none
  | .clock c => if c.offset.isSome then some .offset else none
  | _ => none

/-! ### Values read back -/

/-- A cell without a value. -/
def blank : Datum := .text ""

/-- A value that is no number. -/
def notNumber : Datum := .real .nan

/-- The texts that name errors. -/
def errorNames : List String :=
  ["#NULL!", "#DIV/0!", "#VALUE!", "#REF!", "#NAME?", "#NUM!", "#N/A"]

/-- Whether a text is a formula. -/
def isFormula : List Char → Bool
  | '=' :: _ :: _ => true
  | _ => false

/-- A text with all line ends as line feeds. -/
def unifyLineEnds : List Char → List Char
  | [] => []
  | '\r' :: '\n' :: cs => '\n' :: unifyLineEnds cs
  | c :: cs => (if c = '\r' then '\n' else c) :: unifyLineEnds cs

/-- The mark by which a file tells that an underscore is not the start of a
code.  A reader drops it wherever it stands. -/
def underscoreMark : List Char := "x005F_".toList

/-- A text without the marks; the first `dropped` characters belong to one. -/
def dropMarks (dropped : Nat) : List Char → List Char
  | [] => []
  | c :: cs =>
    match dropped with
    | dropped + 1 => dropMarks dropped cs
    | 0 =>
      if underscoreMark.isPrefixOf (c :: cs) then dropMarks (underscoreMark.length - 1) cs
      else c :: dropMarks 0 cs

/-- The digits of a number that a file keeps. -/
def keptDigits : Nat := 16

/-- A real number read back from its kept digits; none if these round past the
largest real number. -/
def readBackReal : Binary64 → Option Datum
  | .finite negative units _ =>
    if units = 0 then some (.integer 0)
    else
      let d := Decimal.significant keptDigits units
      let x := Binary64.ofDecimal negative d.digits d.exponent
      match d.whole? with
      | some n =>
        if d.firstExponent keptDigits < keptDigits then some (.integer (Binary64.signed negative n))
        else x.truncate?.map .integer
      | none => some (.real x)
  | _ => some blank

/-- A date or a time read back from its number. -/
def readBackSerial (x : Binary64) : Datum :=
  let kept : Binary64 :=
    match readBackReal x with
    | some (.integer n) => .ofInt n
    | some (.real y) => y
    | _ => .nan
  (Serial.read? kept).getD notNumber

/-- A text read back. -/
def readBackText (s : String) : Datum :=
  let cs := s.toList.take maxTextLength
  if isFormula cs then blank
  else if errorNames.contains s then notNumber
  else .text (String.ofList (dropMarks 0 (unifyLineEnds cs)))

/-- A value read back from a file; none if its number is past the largest real
number. -/
def readBack : Datum → Option Datum
  | .boolean b => some (.boolean b)
  | .stored (.boolean b) => some (.integer (if b then 1 else 0))
  | .integer n | .stored (.integer n) => readBackReal (.ofInt n)
  | .real x | .stored (.real x) => readBackReal x
  | .scaled (.finite n) => readBackReal n.toBinary64
  | .text s => some (readBackText s)
  | .date d => some (readBackSerial (Serial.ofDateTime d (.ofSeconds 0)))
  | .moment m => some (readBackSerial (Serial.ofDateTime m.date m.clock))
  | .clock c => some (readBackSerial (Serial.ofClock c.clock))
  | _ => some blank

end Datum

end TableQuery
