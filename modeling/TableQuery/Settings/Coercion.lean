/-
TableQuery/Settings/Coercion.lean

Turning a setting's value into the kind that is expected.

A value of the expected kind stays as it is; a missing value stays missing,
whatever is expected.  Text is read as a number, also when a whole number is
expected, and then cut toward zero.  Two failures, an infinity and a number
out of range, are of another class than the rest (`CoercionError.isOverflow`):
a loader that tolerates bad values does not tolerate these.

A stored real number counts as a real number.  Other stored values have kinds
of their own, which nothing is turned into.

Octets are read like text of ASCII characters, except that only ASCII white
space may stand around a number.  A whole number in octets keeps to the limit of
digits; what is turned into text has its text without one, as Number/Notation.lean
says, and so do the values in messages.
-/
import TableQuery.Cell
import TableQuery.Text.Lowercase

namespace TableQuery

open Text

/-- The kinds of settings that values are turned into. -/
inductive SettingKind where
  | whole
  | real
  | flag
  | text
  /-- Any other kind; values are not turned into it. -/
  | other
  deriving DecidableEq

/-- The name of a kind in messages. -/
def SettingKind.name : SettingKind → String
  | .whole => "int"
  | .real => "float"
  | .flag => "bool"
  | .text => "str"
  | .other => "object"

/-- The kind of a value. -/
def Datum.settingKind : Datum → SettingKind
  | .integer _ => .whole
  | .real _ => .real
  | .boolean _ => .flag
  | .text _ => .text
  | _ => .other

/-- Why a value cannot be turned into the expected kind. -/
inductive CoercionError where
  /-- The text, which a message writes so, is no number. -/
  | notNumeral (written : String)
  /-- The octets, which a message writes so, are no whole number. -/
  | notWhole (written : String)
  /-- The octets are a whole number of too many digits. -/
  | tooLong (digits : Nat)
  /-- Infinity has no whole part. -/
  | infinite
  /-- A value that is no number has no whole part. -/
  | notANumber
  /-- A decimal infinity has no whole part. -/
  | scaledInfinite
  /-- A decimal value that is no number has no whole part. -/
  | scaledNotANumber
  /-- A signaling value is not turned into a real number. -/
  | signaling
  /-- A value that is not available is neither true nor false. -/
  | ambiguous
  /-- The number is out of range. -/
  | tooLarge (overflow : NumberOverflow)
  /-- Values of this kind have no whole part. -/
  | noWhole (kind : String)
  /-- Values of this kind are no real numbers. -/
  | noReal (kind : String)
  deriving DecidableEq

namespace CoercionError

/-- Whether the failure is one of range. -/
def isOverflow : CoercionError → Bool
  | .infinite | .scaledInfinite | .tooLarge _ => true
  | _ => false

/-- Whether the failure is one of the kind of value. -/
def isKindMismatch : CoercionError → Bool
  | .ambiguous | .noWhole _ | .noReal _ => true
  | _ => false

/-- The message for a value that cannot be turned into the expected kind. -/
def message : CoercionError → String
  | .notNumeral written => "could not convert string to float: " ++ written
  | .notWhole written => "invalid literal for int() with base 10: " ++ written
  | .tooLong digits => tooLongText digits
  | .infinite => "cannot convert float infinity to integer"
  | .notANumber => "cannot convert float NaN to integer"
  | .scaledInfinite => "cannot convert Infinity to integer"
  | .scaledNotANumber => "cannot convert NaN to integer"
  | .signaling => "cannot convert signaling NaN to float"
  | .ambiguous => "boolean value of NA is ambiguous"
  | .tooLarge overflow => overflow.message
  | .noWhole kind =>
    "int() argument must be a string, a bytes-like object or a real number, not '" ++ kind ++ "'"
  | .noReal kind => "float() argument must be a string or a real number, not '" ++ kind ++ "'"

end CoercionError

namespace Datum

/-- The words that mean yes. -/
def affirmatives : List String := ["true", "1", "yes", "on"]

/-- Whether a real number is not zero. -/
def isNonzero (x : Binary64) : Bool :=
  match x with
  | .finite _ units _ => units ≠ 0
  | _ => true

/-- Whether a value counts as something rather than nothing. -/
def isSomething : Datum → Bool
  | .missing => false
  | .boolean b | .stored (.boolean b) => b
  | .integer n | .stored (.integer n) => n ≠ 0
  | .real x | .stored (.real x) => isNonzero x
  | .ratio n _ => n ≠ 0
  | .scaled (.finite n) => n.coefficient ≠ 0
  | .text s => s ≠ ""
  | .octets o => !o.isEmpty
  | .list items | .distinct items => !items.isEmpty
  | .entries items => !items.isEmpty
  | _ => true

/-- The whole part of a real number, toward zero. -/
def wholePart (x : Binary64) : Except CoercionError Int :=
  match x with
  | .nan => .error .notANumber
  | .infinite _ => .error .infinite
  | .finite negative units _ => .ok (Binary64.signed negative (units / Binary64.unitsPerOne))

/-- The number of a setting's text. -/
def numberOfText (s : String) : Except CoercionError Binary64 :=
  match readReal? s with
  | some x => .ok x
  | none => .error (.notNumeral (quoted s))

/-- White space among octets. -/
def isBlankOctet (octet : Nat) : Bool := octet = 32 || (9 ≤ octet && octet ≤ 13)

/-- The characters of octets that can be a number: without the white space
around them they must be visible ASCII characters. -/
def octetChars? (octets : List Nat) : Option (List Char) :=
  let inner := ((octets.dropWhile isBlankOctet).reverse.dropWhile isBlankOctet).reverse
  if inner.all (fun octet => 0x21 ≤ octet && octet ≤ 0x7E) then some (inner.map Char.ofNat)
  else none

/-- Octets as a whole number, which must not be too long. -/
def wholeOfOctets (octets : List Nat) : Except CoercionError Int :=
  match octetChars? octets with
  | none => .error (.notWhole (quotedOctets octets))
  | some cs =>
    if digitLimit < leadingDigits cs then .error (.tooLong (leadingDigits cs))
    else
      match readWhole? 10 cs with
      | some n => .ok n
      | none => .error (.notWhole (quotedOctets octets))

/-- The whole part of a numeral, toward zero.  One with more places than digits
has none. -/
def numeralWhole (n : Numeral) : Int :=
  Binary64.signed n.negative (match n.scale with
    | .ofNat e => n.coefficient * Nat.pow 10 e
    | .negSucc e =>
      if n.whole.length + n.fraction.length ≤ e then 0 else n.coefficient / Nat.pow 10 (e + 1))

/-- A value as a whole number. -/
def toWhole : Datum → Except CoercionError Int
  | .integer n | .stored (.integer n) => .ok n
  | .boolean b | .stored (.boolean b) => .ok (if b then 1 else 0)
  | .real x | .stored (.real x) => wholePart x
  | .ratio n d => .ok (n.tdiv d)
  | .scaled (.finite n) => .ok (numeralWhole n)
  | .scaled (.infinite _) => .error .scaledInfinite
  | .scaled (.notNumber ..) => .error .scaledNotANumber
  | .text s => do wholePart (← numberOfText s)
  | .octets o => wholeOfOctets o
  | d => .error (.noWhole d.argumentKind)

/-- A value as a real number. -/
def toReal : Datum → Except CoercionError Binary64
  | .real x | .stored (.real x) => .ok x
  | .integer n | .stored (.integer n) => (realOfInt n).mapError .tooLarge
  | .boolean b | .stored (.boolean b) => .ok (.ofInt (if b then 1 else 0))
  | .ratio n d => (realOfRatio n d).mapError .tooLarge
  | .scaled (.finite n) => .ok n.toBinary64
  | .scaled (.infinite negative) => .ok (.infinite negative)
  | .scaled (.notNumber _ signaling _) => if signaling then .error .signaling else .ok .nan
  | .text s => numberOfText s
  | .octets o =>
    match (octetChars? o).bind fun cs => readReal? (String.ofList cs) with
    | some x => .ok x
    | none => .error (.notNumeral (quotedOctets o))
  | d => .error (.noReal d.argumentKind)

/-- A value as a truth value; text means yes by its words. -/
def toFlag : Datum → Except CoercionError Bool
  | .text s => .ok (affirmatives.contains (lowercase s))
  | .unavailable => .error .ambiguous
  | d => .ok d.isSomething

/-- Turns a value into the expected kind. -/
def coerce (kind : SettingKind) (value : Datum) : Except CoercionError Datum :=
  match value with
  | .missing => .ok .missing
  | value =>
    match kind with
    | .whole => .integer <$> value.toWhole
    | .real =>
      match value with
      | .stored (.real x) => .ok (.stored (.real x))
      | value => .real <$> value.toReal
    | .flag => .boolean <$> value.toFlag
    | .text => .ok (.text value.plainText)
    | .other => .ok value

end Datum

end TableQuery
