/-
TableQuery/Proofs/Cell/Numeral.lean

The number of a text.

A text has a number exactly if it is a numeral between white space and what it
denotes rounds to a finite binary64 number, which is then its number.  The
numeral is what the grammar says, the denoted number is a rational number, and
rounding is correct rounding, to the nearest with ties to even; nothing of it
refers to how the program reads or rounds.

The program reads the digits as one whole number and the rest as a power of
ten, and divides only once.  So all there is to show here is that this quotient
is the denoted number (`abs_value_mul_unitsPerOne`).

Main result: `Cell.number?_text_eq_some_iff`.
-/
import TableQuery.Cell
import TableQuery.Proofs.Number.Decimal
import TableQuery.Proofs.Number.Grammar
import TableQuery.Proofs.Number.Nearest

namespace TableQuery

open Text

namespace Numeral

/-- The rational number that a numeral denotes: its digits as one whole number,
with the point where it was written and moved by the exponent. -/
def value (n : Numeral) : ℚ :=
  (if n.negative then -1 else 1) * (digitsValue (n.whole ++ n.fraction) : ℚ) *
    10 ^ (n.exponent - n.fraction.length)

theorem abs_value (n : Numeral) : |n.value| = n.coefficient * (10 : ℚ) ^ n.scale := by
  have hsign : |(if n.negative then -1 else 1 : ℚ)| = 1 := by
    split
    · rw [abs_neg, abs_one]
    · exact abs_one
  have hpow : (0 : ℚ) < 10 ^ n.scale := zpow_pos (by norm_num) _
  rw [value, abs_mul, abs_mul, hsign, one_mul, Nat.abs_cast]
  exact congrArg _ (abs_of_pos hpow)

/-- The denoted number in units, as the quotient that is rounded. -/
theorem abs_value_mul_unitsPerOne (n : Numeral) :
    |n.value| * Binary64.unitsPerOne
      = ((n.coefficient * Nat.pow 10 n.scale.toNat * Binary64.unitsPerOne : Nat) : ℚ) /
        (Nat.pow 10 (-n.scale).toNat : Nat) := by
  generalize Binary64.unitsPerOne = one
  have hscale : n.scale = (n.scale.toNat : Int) - ((-n.scale).toNat : Int) := by omega
  have hpow : (10 : ℚ) ^ n.scale = 10 ^ n.scale.toNat / 10 ^ (-n.scale).toNat := by
    conv_lhs => rw [hscale]
    rw [zpow_sub₀ (by norm_num), zpow_natCast, zpow_natCast]
  rw [abs_value, hpow]
  simp only [Nat.pow_eq]
  push_cast
  ring

/-- **A numeral has a finite number exactly if what it denotes rounds to one.** -/
theorem toBinary64_eq_iff_roundsTo (n : Numeral) (x : Binary64) :
    x.isFinite = true ∧ n.toBinary64 = x ↔ Binary64.RoundsTo n.negative n.value x := by
  rw [toBinary64, Binary64.ofDecimal_eq_ofUnits]
  exact Binary64.ofUnits_eq_iff_roundsTo (Nat.pow_pos (by decide)) n.abs_value_mul_unitsPerOne x

end Numeral

theorem readNumber?_eq_some_iff {s : String} {x : Binary64} :
    readNumber? s = some x ↔
      ∃ n, Numeral.read? (strip s.toList) = some n ∧ x.isFinite = true ∧ n.toBinary64 = x := by
  rw [readNumber?]
  split
  · next hnone => simp [hnone]
  · next n hn =>
    simp only [hn, Option.some.injEq]
    constructor
    · intro h
      split at h
      · next hfinite =>
        obtain rfl := Option.some.inj h
        exact ⟨n, rfl, hfinite, rfl⟩
      · cases h
    · rintro ⟨_, rfl, hfinite, rfl⟩
      exact if_pos hfinite

/-- **Which texts have a number, and which number.**  A text has the number `x`
exactly if, without the white space around it, it is written as some numeral,
and what that numeral denotes rounds to the finite number `x`. -/
theorem Cell.number?_text_eq_some_iff (s : String) (x : Binary64) :
    (Cell.text s).number? = some x ↔
      ∃ n : Numeral, n.Written (strip s.toList) ∧ Binary64.RoundsTo n.negative n.value x := by
  show readNumber? s = some x ↔ _
  rw [readNumber?_eq_some_iff]
  simp only [Numeral.read?_eq_some_iff, Numeral.toBinary64_eq_iff_roundsTo]

/-- A digit of another script, a point that no digit follows, and an exponent. -/
example : (Cell.text " +٣.E0 ").number? = (Cell.text "3").number? := by decide +kernel

end TableQuery
