/-
TableQuery/Number/Shortest.lean

The shortest decimal that identifies a binary64 magnitude.

Design.  A magnitude is looked up on ever finer decimal grids 10^e, from the
grid of its leading digit downward.  On each grid only the two neighbours of
the value can matter; the first grid on which one of them rounds back to the
value wins, the closer neighbour is taken, and of two equally close ones the
even one.  The grid 10^-1074 holds every finite value exactly, so the search
ends there at the latest and needs no bound of its own.
-/
import TableQuery.Number.Binary64

namespace TableQuery

/-- The decimal `digits * 10 ^ exponent`. -/
structure Decimal where
  digits : Nat
  exponent : Int
  deriving DecidableEq, Repr

namespace Decimal

/-- The magnitude, in units, that this decimal rounds to. -/
def roundedUnits (d : Decimal) : Nat :=
  Binary64.roundUnits (d.digits * Nat.pow 10 d.exponent.toNat * Binary64.unitsPerOne)
    (Nat.pow 10 (-d.exponent).toNat)

/-- The exponent of the leading digit of a positive magnitude. -/
def leadingExponent (units : Nat) : Int :=
  let whole := units / Binary64.unitsPerOne
  if whole ≠ 0 then ((Nat.toDigits 10 whole).length : Int) - 1
  else
    let e := ((Nat.toDigits 10 (units * Nat.pow 10 324 / Binary64.unitsPerOne)).length : Int)
    e - 325

/-- Where a magnitude lies on a grid: the multiple at or below it, and how far
it lies from there to the next one, as a numerator over a denominator. -/
structure GridPlace where
  below : Nat
  rest : Nat
  den : Nat

/-- The place of a magnitude on the grid `10 ^ exponent`. -/
def gridPlace (units : Nat) (exponent : Int) : GridPlace :=
  let num := units * Nat.pow 10 (-exponent).toNat
  let den := Binary64.unitsPerOne * Nat.pow 10 exponent.toNat
  ⟨num / den, num % den, den⟩

/-- The one of two neighbours on a grid that is taken, if either of them fits:
the closer of two, and the even one of two equally close. -/
def pick? (place : GridPlace) (exponent : Int) (lowFits highFits : Bool) : Option Decimal :=
  let low : Decimal := ⟨place.below, exponent⟩
  let high : Decimal := ⟨place.below + 1, exponent⟩
  match lowFits, highFits with
  | true, true =>
    if 2 * place.rest < place.den then some low
    else if place.den < 2 * place.rest then some high
    else if place.below % 2 = 0 then some low else some high
  | true, false => some low
  | false, true => some high
  | false, false => none

/-- The neighbour on this grid that rounds back to the magnitude, if one does. -/
def onGrid? (units : Nat) (exponent : Int) : Option Decimal :=
  let place := gridPlace units exponent
  pick? place exponent
    (roundedUnits ⟨place.below, exponent⟩ == units)
    (roundedUnits ⟨place.below + 1, exponent⟩ == units)

/-- The first hit on the grids `exponent`, `exponent - 1`, …; after `finer`
grids the value itself. -/
def search (hit? : Int → Option Decimal) (exact : Decimal) : Nat → Int → Decimal
  | 0, _ => exact
  | finer + 1, exponent =>
    match hit? exponent with
    | some d => d
    | none => search hit? exact finer (exponent - 1)

/-- The places after the point that every magnitude gets along with. -/
def exactPlaces : Nat := 1074

/-- A magnitude with all its places. -/
def exact (units : Nat) : Decimal := ⟨units * Nat.pow 5 exactPlaces, -exactPlaces⟩

/-- The shortest decimal that rounds to this positive magnitude. -/
def shortest (units : Nat) : Decimal :=
  let top := leadingExponent units
  search (onGrid? units) (exact units) (top + exactPlaces).toNat top

end Decimal

end TableQuery
