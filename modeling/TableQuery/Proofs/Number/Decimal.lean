/-
TableQuery/Proofs/Number/Decimal.lean

Decimals as binary64 numbers.

A decimal `digits * 10 ^ exponent` is read by its exact value, rounded once
(`ofDecimal_eq_ofUnits`).  The two shortcuts of the reading, for exponents far
out on either side, are the same rounding: they only spare the power of ten.
So moving a zero between the digits and the exponent changes nothing
(`ofDecimal_mul_pow`), whatever the size of the exponent.

The search for the shortest decimal of a magnitude returns nothing but
decimals that round to the magnitude, the exact one at the end of its grids
included.  Hence reading the shortest decimal gives the number back
(`ofDecimal_shortest`).
-/
import Mathlib.Tactic.Ring
import TableQuery.Number.Shortest
import TableQuery.Proofs.Number.Rounding

namespace TableQuery

namespace Binary64

/-! ### The exact value, rounded once -/

/-- Past the powers of ten that are multiplied out, one unit is past the bound. -/
theorem unitsBound_le_pow_mul {e : Nat} (he : 310 < e) : unitsBound ≤ 10 ^ e * unitsPerOne := by
  have hlast : unitsBound ≤ 10 ^ 311 * unitsPerOne := by decide +kernel
  obtain ⟨k, rfl⟩ := Nat.exists_eq_add_of_lt he
  refine Nat.le_trans hlast (Nat.mul_le_mul_right _ ?_)
  apply Nat.pow_le_pow_right
  · decide
  · omega

/-- Past the powers of ten that are divided by, digits leave less than half a
unit. -/
theorem two_mul_mul_lt_pow {digits e : Nat} (he : Nat.log2 digits + 400 < e) :
    2 * (digits * unitsPerOne) < 10 ^ (e + 1) := by
  obtain ⟨k, hk, hlast⟩ : ∃ k, k = 402 ∧ 4 * unitsPerOne ≤ 10 ^ k :=
    ⟨402, rfl, by decide +kernel⟩
  have hpos := unitsPerOne_pos
  generalize unitsPerOne = one at hlast hpos ⊢
  have hdigits : digits < 2 * 2 ^ Nat.log2 digits := by
    rw [← Nat.pow_succ']
    exact Nat.lt_log2_self
  have hten : 2 ^ Nat.log2 digits ≤ 10 ^ Nat.log2 digits := Nat.pow_le_pow_left (by decide) _
  calc 2 * (digits * one) < 2 * (2 * 2 ^ Nat.log2 digits * one) :=
        Nat.mul_lt_mul_of_pos_left (Nat.mul_lt_mul_of_pos_right hdigits hpos) Nat.two_pos
    _ = 2 ^ Nat.log2 digits * (4 * one) := by ring
    _ ≤ 10 ^ Nat.log2 digits * 10 ^ k := Nat.mul_le_mul hten hlast
    _ = 10 ^ (Nat.log2 digits + k) := (Nat.pow_add ..).symm
    _ ≤ 10 ^ (e + 1) := Nat.pow_le_pow_right (by decide) (by omega)

theorem ofUnits_of_large (negative : Bool) {digits e : Nat} (hdigits : digits ≠ 0) (he : 310 < e) :
    ofUnits negative (digits * Nat.pow 10 e * unitsPerOne) 1 = .infinite negative := by
  refine ofUnits_eq_infinite negative ?_
  rw [Nat.div_one, Nat.pow_eq, Nat.mul_assoc]
  exact Nat.le_trans (unitsBound_le_pow_mul he)
    (Nat.le_mul_of_pos_left _ (Nat.pos_of_ne_zero hdigits))

theorem ofUnits_of_small (negative : Bool) {digits e : Nat} (he : Nat.log2 digits + 400 < e) :
    ofUnits negative (digits * unitsPerOne) (Nat.pow 10 (e + 1)) = zero negative :=
  ofUnits_eq_zero negative (two_mul_mul_lt_pow he)

/-- **A decimal is read by its exact value, rounded once**, far outside the
range too. -/
theorem ofDecimal_eq_ofUnits (negative : Bool) (digits : Nat) (exponent : Int) :
    ofDecimal negative digits exponent
      = ofUnits negative (digits * Nat.pow 10 exponent.toNat * unitsPerOne)
          (Nat.pow 10 (-exponent).toNat) := by
  by_cases hdigits : digits = 0
  · unfold ofDecimal
    rw [if_pos hdigits, hdigits, Nat.zero_mul, Nat.zero_mul]
    exact (ofUnits_eq_zero negative (Nat.pow_pos (by decide))).symm
  · unfold ofDecimal
    rw [if_neg hdigits]
    -- a shortcut is taken where the power of ten alone decides on the outcome
    cases exponent with
    | ofNat e =>
      show (if 310 < e then infinite negative
        else ofUnits negative (digits * Nat.pow 10 e * unitsPerOne) 1) = _
      have hden : Nat.pow 10 (-Int.ofNat e).toNat = 1 := by
        rw [show (-Int.ofNat e).toNat = 0 by simp]
      rw [hden]
      split
      · next he => exact (ofUnits_of_large negative hdigits he).symm
      · rfl
    | negSucc e =>
      show (if Nat.log2 digits + 400 < e then zero negative
        else ofUnits negative (digits * unitsPerOne) (Nat.pow 10 (e + 1))) = _
      have hnum : digits * Nat.pow 10 (Int.negSucc e).toNat = digits := Nat.mul_one digits
      have hden : (-Int.negSucc e).toNat = e + 1 := rfl
      rw [hnum, hden]
      split
      · next he => exact (ofUnits_of_small negative he).symm
      · rfl

/-- A zero at the end of the digits can be moved to the exponent. -/
theorem ofDecimal_mul_pow (negative : Bool) (digits k : Nat) (exponent : Int) :
    ofDecimal negative (digits * 10 ^ k) exponent = ofDecimal negative digits (exponent + k) := by
  rw [ofDecimal_eq_ofUnits, ofDecimal_eq_ofUnits]
  refine ofUnits_congr negative (Nat.pow_pos (by decide)) (Nat.pow_pos (by decide)) ?_
  generalize unitsPerOne = one
  simp only [Nat.pow_eq]
  -- both sides have the same power of ten
  have hpow : 10 ^ k * 10 ^ exponent.toNat * 10 ^ (-(exponent + k)).toNat
      = 10 ^ (exponent + k).toNat * 10 ^ (-exponent).toNat := by
    rw [← Nat.pow_add, ← Nat.pow_add, ← Nat.pow_add]
    congr 1
    omega
  calc _ = digits * one * (10 ^ k * 10 ^ exponent.toNat * 10 ^ (-(exponent + k)).toNat) := by ring
    _ = digits * one * (10 ^ (exponent + k).toNat * 10 ^ (-exponent).toNat) := by rw [hpow]
    _ = _ := by ring

end Binary64

/-! ### The shortest decimal -/

namespace Decimal

open Binary64

/-- What is picked is a neighbour that fits. -/
theorem pick?_eq_some {place : GridPlace} {exponent : Int} {lowFits highFits : Bool} {d : Decimal}
    (h : pick? place exponent lowFits highFits = some d) :
    (lowFits = true ∧ d = ⟨place.below, exponent⟩) ∨
      (highFits = true ∧ d = ⟨place.below + 1, exponent⟩) := by
  unfold pick? at h
  cases lowFits <;> cases highFits <;> grind

/-- A decimal that is found on a grid rounds to the magnitude. -/
theorem roundedUnits_of_onGrid? {units : Nat} {exponent : Int} {d : Decimal}
    (h : onGrid? units exponent = some d) : d.roundedUnits = units := by
  rcases pick?_eq_some h with ⟨hfits, rfl⟩ | ⟨hfits, rfl⟩
  · rw [beq_iff_eq] at hfits
    exact hfits
  · rw [beq_iff_eq] at hfits
    exact hfits

/-- What holds of every hit and of the value itself holds of what is found. -/
theorem search_induction {hit? : Int → Option Decimal} {exact : Decimal} {p : Decimal → Prop}
    (hhit : ∀ exponent d, hit? exponent = some d → p d) (hexact : p exact) (finer : Nat)
    (exponent : Int) : p (search hit? exact finer exponent) := by
  induction finer generalizing exponent with
  | zero => exact hexact
  | succ finer ih =>
    rw [search]
    split
    · next d hd => exact hhit exponent d hd
    · exact ih _

theorem five_pow_mul_two_pow (n : Nat) : 5 ^ n * 2 ^ n = 10 ^ n := (Nat.mul_pow 5 2 n).symm

theorem unitsPerOne_eq_pow : unitsPerOne = 2 ^ exactPlaces := by decide +kernel

/-- With all its places a magnitude rounds to itself. -/
theorem roundedUnits_exact {units : Nat} (h : Representable units) :
    (exact units).roundedUnits = units := by
  rw [roundedUnits, exact, unitsPerOne_eq_pow]
  generalize exactPlaces = places
  have hnum : (-(places : Int)).toNat = 0 := by omega
  have hden : (- -(places : Int)).toNat = places := by omega
  simp only [hnum, hden, Nat.pow_eq, Nat.pow_zero, Nat.mul_one]
  rw [Nat.mul_assoc, five_pow_mul_two_pow]
  exact roundUnits_of_representable h (Nat.pow_pos (by decide))

/-- The shortest decimal of a magnitude rounds to it. -/
theorem roundedUnits_shortest {units : Nat} (h : Representable units) :
    (shortest units).roundedUnits = units := by
  refine search_induction (p := fun d => d.roundedUnits = units) ?_ ?_ _ _
  · intro exponent d hd
    exact roundedUnits_of_onGrid? hd
  · exact roundedUnits_exact h

/-- **The shortest decimal of a magnitude is read as that magnitude.** -/
theorem ofDecimal_shortest (negative : Bool) {units : Nat} (h : Representable units) :
    ofDecimal negative (shortest units).digits (shortest units).exponent
      = .finite negative units h := by
  rw [ofDecimal_eq_ofUnits]
  exact ofUnits_of_roundUnits_eq negative h (roundedUnits_shortest h)

end Decimal

end TableQuery
