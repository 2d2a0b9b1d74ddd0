/-
TableQuery/Number/Scaled.lean

Decimal numbers that keep their scale.

Besides the numerals there are the two infinities, and values that are no
number: quiet ones, which equal nothing, and signaling ones, which refuse to
be compared at all.  A value that is no number can carry digits.
-/
import TableQuery.Number.Numeral

namespace TableQuery

open Text

/-- A decimal number with its scale. -/
inductive ScaledNumber where
  | finite (value : Numeral)
  | infinite (negative : Bool)
  /-- No number; the payload is the digits it carries. -/
  | notNumber (negative signaling : Bool) (payload : Nat)
  deriving DecidableEq

namespace ScaledNumber

/-- The digits behind the name of a value that is no number. -/
def readPayload? (cs : List Char) : Option Nat :=
  match readDigits cs with
  | (digits, []) => some (digitsValue digits)
  | _ => none

/-- The values that are named, whatever the case of their letters. -/
def ofName? (cs : List Char) : Option ScaledNumber :=
  let (negative, cs) := readSign cs
  match cs.map Char.toLower with
  | 'n' :: 'a' :: 'n' :: digits => (readPayload? digits).map (.notNumber negative false)
  | 's' :: 'n' :: 'a' :: 'n' :: digits => (readPayload? digits).map (.notNumber negative true)
  | name =>
    if name = "inf".toList || name = "infinity".toList then some (.infinite negative) else none

/-- The powers of ten that the digits can have. -/
def lowestPower : Int := -1999999999999999997
def highestPower : Int := 999999999999999999

/-- Whether the digits of a numeral have places within the bounds. -/
def isInRange (n : Numeral) : Bool :=
  let first :=
    if n.coefficient = 0 then n.scale
    else n.scale + ((Nat.toDigits 10 n.coefficient).length - 1 : Nat)
  lowestPower ≤ n.scale && first ≤ highestPower

/-- Why a text is no decimal number. -/
inductive ReadError where
  | malformed
  | outOfRange
  deriving DecidableEq

/-- The decimal number in a text.  Grouping marks in the text count for
nothing. -/
def read (s : String) : Except ReadError ScaledNumber :=
  let cs := (strip s.toList).filter (· ≠ '_')
  match Numeral.read? cs with
  | some n => if isInRange n then .ok (.finite n) else .error .outOfRange
  | none =>
    match ofName? cs with
    | some x => .ok x
    | none => .error .malformed

/-- A decimal number in its written form. -/
def text : ScaledNumber → String
  | .finite n => n.scaledText
  | .infinite negative => Binary64.withSign negative "Infinity".toList
  | .notNumber negative signaling payload =>
    Binary64.withSign negative
      ((if signaling then ['s'] else []) ++ "NaN".toList ++
        if payload = 0 then [] else Nat.toDigits 10 payload)

end ScaledNumber

end TableQuery
