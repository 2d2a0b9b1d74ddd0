/-
TableQuery/Document/Scalar.lean

The values that texts have under a tag.

Without a tag, a word has the value it looks like, so nothing can go wrong but
a date that does not exist.  A written tag can ask for a kind of value that
the text is not.  Numbers drop their underscores first; after a sign, `0b`,
`0x` and a leading zero name the base.
-/
import TableQuery.Document.Node
import TableQuery.Text.Lowercase

namespace TableQuery.Document

open Text

/-! ### Numbers -/

/-- A number of parts of sixty, the greatest first. -/
def ofSixtieths (parts : List Int) : Int :=
  parts.foldl (fun value part => 60 * value + part) 0

/-- A real number of parts of sixty, the last of which comes first.  The parts
are added up from there, each times a power of sixty. -/
def ofSixtiethsReal (parts : List Binary64) : Binary64 :=
  parts.zipIdx.foldl (fun value (part, i) => value.add (part.mul (.ofInt (Nat.pow 60 i))))
    (.ofInt 0)

/-- A whole number in a base; in base ten it must not be too long. -/
def wholeIn (base : Nat) (cs : List Char) : Except DocumentError Int :=
  if base = 10 && digitLimit < leadingDigits cs then .error (.tooLong (leadingDigits cs))
  else
    match readWhole? base cs with
    | some n => .ok n
    | none => .error (.notWhole base (String.ofList cs))

/-- A real number in base ten. -/
def realIn (cs : List Char) : Except DocumentError Binary64 :=
  match readReal? (String.ofList cs) with
  | some x => .ok x
  | none => .error (.notReal (String.ofList cs))

/-- The whole number of a text without its sign. -/
def unsignedWhole (cs : List Char) : Except DocumentError Int :=
  match cs with
  | [] => .error .emptyNumber
  | ['0'] => .ok 0
  | '0' :: 'b' :: digits => wholeIn 2 digits
  | '0' :: 'x' :: digits => wholeIn 16 digits
  | '0' :: _ => wholeIn 8 cs
  | cs =>
    if cs.contains ':' then do
      let parts ← (cs.splitOn ':').mapM (wholeIn 10)
      .ok (ofSixtieths parts)
    else wholeIn 10 cs

/-- The whole number of a text. -/
def wholeOf (text : String) : Except DocumentError Int := do
  let cs := text.toList.filter (· ≠ '_')
  let (negative, body) := readSign cs
  let n ← unsignedWhole body
  .ok (if negative then -n else n)

/-- The real number of a text without its sign. -/
def unsignedReal (cs : List Char) : Except DocumentError Binary64 :=
  if cs = ".inf".toList then .ok (.infinite false)
  else if cs = ".nan".toList then .ok .nan
  else if cs.contains ':' then do
    let parts ← (cs.splitOn ':').mapM realIn
    .ok (ofSixtiethsReal parts.reverse)
  else realIn cs

/-- The real number of a text. -/
def realOf (text : String) : Except DocumentError Binary64 := do
  let cs := (lowercase (String.ofList (text.toList.filter (· ≠ '_')))).toList
  if cs.isEmpty then .error .emptyNumber
  else
    let (negative, body) := readSign cs
    let x ← unsignedReal body
    .ok (if negative then x.negate else x)

/-! ### Other values -/

/-- The truth values by word, in lower case. -/
def flags : List (String × Bool) := [
  ("yes", true), ("no", false), ("true", true), ("false", false), ("on", true), ("off", false)]

/-- The truth value of a text. -/
def flagOf (text : String) : Except DocumentError Bool :=
  match flags.lookup (lowercase text) with
  | some b => .ok b
  | none => .error (.notFlag (lowercase text))

/-- The octets of a text in base 64. -/
def octetsOf (text : String) : Except DocumentError (List Nat) :=
  match text.toList.all (·.toNat < 128), octets64? text.toList with
  | true, some octets => .ok octets
  | _, _ => .error .malformed

/-- The date or moment of a text. -/
def timeOf (text : String) : Except DocumentError Datum :=
  let cs := text.toList
  match Stamp.read? (if cs.getLast? = some '\n' then cs.dropLast else cs) with
  | none => .error .notTime
  | some stamp => stamp.datum.mapError .time

/-- The value of a text under a tag; none if no single text has this tag. -/
def Tag.valueOf? (tag : Tag) (text : String) : Option (Except DocumentError Datum) :=
  match tag with
  | .nothing => some (.ok .missing)
  | .flag => some ((flagOf text).map .boolean)
  | .whole => some ((wholeOf text).map .integer)
  | .real => some ((realOf text).map .real)
  | .octets => some ((octetsOf text).map .octets)
  | .time => some (timeOf text)
  | .text => some (.ok (.text text))
  | _ => none

end TableQuery.Document
