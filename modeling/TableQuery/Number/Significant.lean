/-
TableQuery/Number/Significant.lean

A set number of significant digits.

A magnitude rounded to so many digits is the nearest decimal on the grid of
its last digit, a half going to the even one.  Where rounding carries into a
further digit, the last digit, which is then zero, is given up.
-/
import TableQuery.Number.Shortest

namespace TableQuery

namespace Decimal

/-- A positive magnitude, in units, rounded to this number of significant
digits. -/
def significant (digits units : Nat) : Decimal :=
  let last : Int := leadingExponent units - (digits - 1 : Nat)
  let rounded := roundQuotient (units * Nat.pow 10 (-last).toNat)
    (Binary64.unitsPerOne * Nat.pow 10 last.toNat)
  if rounded = Nat.pow 10 digits then ⟨Nat.pow 10 (digits - 1), last + 1⟩ else ⟨rounded, last⟩

/-- The exponent of the first of this number of digits. -/
def firstExponent (digits : Nat) (d : Decimal) : Int :=
  d.exponent + (digits - 1 : Nat)

/-- The whole number that a decimal is, if it is one. -/
def whole? (d : Decimal) : Option Nat :=
  let scale := Nat.pow 10 (-d.exponent).toNat
  if d.digits % scale = 0 then some (d.digits / scale * Nat.pow 10 d.exponent.toNat) else none

end Decimal

end TableQuery
