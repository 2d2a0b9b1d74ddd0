/-
TableQuery/Number/Exact.lean

Equality of numbers of different kinds.

Whole numbers, binary64 numbers, quotients and decimals are equal when they
are the same number, however it is held.  `ExactNumber` is a form that equal
numbers share: a coefficient without a zero at its end and a power of ten, or,
for a quotient that no decimal is, its lowest terms.
-/
import TableQuery.Number.Scaled

namespace TableQuery

/-- A number in the form that all its equals share. -/
inductive ExactNumber where
  /-- A coefficient that is zero or does not end in zero, and its power of ten. -/
  | decimal (negative : Bool) (coefficient : Nat) (tens : Int)
  /-- A quotient in lowest terms that is no decimal. -/
  | quotient (negative : Bool) (numerator denominator : Nat)
  | infinite (negative : Bool)
  deriving DecidableEq

namespace ExactNumber

/-- A number without the zeros at its end, and how many there were; `steps`
bounds their number. -/
def dropZeros : Nat → Nat → Nat × Nat
  | 0, n => (n, 0)
  | steps + 1, n =>
    if n % 10 = 0 then
      let (rest, zeros) := dropZeros steps (n / 10)
      (rest, zeros + 1)
    else (n, 0)

/-- The number `coefficient * 10 ^ tens`. -/
def ofScale (negative : Bool) (coefficient : Nat) (tens : Int) : ExactNumber :=
  if coefficient = 0 then .decimal false 0 0
  else
    let (rest, zeros) := dropZeros (Nat.log2 coefficient) coefficient
    .decimal negative rest (tens + zeros)

def ofInt (n : Int) : ExactNumber := ofScale (n < 0) n.natAbs 0

/-- The number of a quotient in lowest terms. -/
def ofRatio (numerator : Int) (denominator : Nat) : ExactNumber :=
  let digits := Nat.log2 denominator + 1
  let power := Nat.pow 10 digits
  if power % denominator = 0 then
    ofScale (numerator < 0) (numerator.natAbs * (power / denominator)) (-digits)
  else .quotient (numerator < 0) numerator.natAbs denominator

/-- The number of a binary64 number, if it is one. -/
def ofBinary64? : Binary64 → Option ExactNumber
  | .finite negative units _ => some (ofScale negative (units * Nat.pow 5 1074) (-1074))
  | .infinite negative => some (.infinite negative)
  | .nan => none

/-- The number of a decimal number, if it is one. -/
def ofScaled? : ScaledNumber → Option ExactNumber
  | .finite n => some (ofScale n.negative n.coefficient n.scale)
  | .infinite negative => some (.infinite negative)
  | .notNumber .. => none

end ExactNumber

end TableQuery
