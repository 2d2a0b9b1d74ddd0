/-
TableQuery/Proofs/Number/Rounding.lean

Rounding, as a function of the exact quotient.

`roundUnits` is given a numerator and a denominator, but what it returns
depends on their quotient alone (`roundUnits_congr`).  Of the quotient only
its place matters to what is proved later: rounding never turns two quotients
round (`roundUnits_mono`), a representable magnitude is left as it is, less than
half a unit goes to zero, a quotient past the largest magnitude stays past it,
and one that is at least half a step below the bound stays below it.

Each of these facts is stated twice, for the magnitude (`roundUnits`) and for
the number with its sign (`ofUnits`); nothing after this module unfolds
either.
-/
import Mathlib.Algebra.Ring.Nat
import Mathlib.Data.Nat.Log
import TableQuery.Number.Binary64

namespace TableQuery

/-! ### The nearest whole number -/

/-- A common factor does not change the nearest whole number. -/
theorem roundQuotient_mul_right (num den : Nat) {k : Nat} (hk : 0 < k) :
    roundQuotient (num * k) (den * k) = roundQuotient num den := by
  have hlow : 2 * (num % den * k) < den * k ↔ 2 * (num % den) < den := by
    rw [← Nat.mul_assoc]
    exact Nat.mul_lt_mul_right hk
  have hhigh : den * k < 2 * (num % den * k) ↔ den < 2 * (num % den) := by
    rw [← Nat.mul_assoc]
    exact Nat.mul_lt_mul_right hk
  simp only [roundQuotient, Nat.mul_div_mul_right _ _ hk, Nat.mul_mod_mul_right, hlow, hhigh]

/-- A whole quotient is its own nearest whole number. -/
theorem roundQuotient_of_dvd {num den : Nat} (hden : 0 < den) (h : den ∣ num) :
    roundQuotient num den = num / den := by
  have hrest : num % den = 0 := Nat.mod_eq_zero_of_dvd h
  rw [roundQuotient, hrest]
  exact if_pos hden

/-- Less than a half rounds down. -/
theorem roundQuotient_of_lt {num den : Nat} (h : 2 * (num % den) < den) :
    roundQuotient num den = num / den :=
  if_pos h

theorem div_le_roundQuotient (num den : Nat) : num / den ≤ roundQuotient num den := by
  rcases roundQuotient_eq_or num den with h | h <;> omega

theorem roundQuotient_le_succ (num den : Nat) : roundQuotient num den ≤ num / den + 1 := by
  rcases roundQuotient_eq_or num den with h | h <;> omega

/-- The larger of two quotients has no smaller nearest whole number. -/
theorem roundQuotient_mono {num num' : Nat} (den : Nat) (h : num ≤ num') :
    roundQuotient num den ≤ roundQuotient num' den := by
  rcases Nat.lt_or_eq_of_le (Nat.div_le_div_right (c := den) h) with hlt | heq
  · calc roundQuotient num den ≤ num / den + 1 := roundQuotient_le_succ num den
      _ ≤ num' / den := hlt
      _ ≤ roundQuotient num' den := div_le_roundQuotient num' den
  · -- between the same two whole numbers, only the rests are compared
    have hrest : num % den ≤ num' % den := by
      have hnum := Nat.div_add_mod num den
      have hnum' := Nat.div_add_mod num' den
      rw [heq] at hnum
      omega
    simp only [roundQuotient, heq]
    split_ifs <;> omega

namespace Binary64

theorem unitsPerOne_pos : 0 < unitsPerOne := by
  unfold unitsPerOne
  apply Nat.pow_pos
  decide

/-- The bound as a power of two; the exponent is a variable, so that nothing
multiplies the power out. -/
theorem unitsBound_eq {k : Nat} (hk : k = 2098) : unitsBound = 2 ^ k := by
  subst hk
  decide +kernel

/-! ### The magnitude -/

theorem roundUnits_mul_right (num den : Nat) {k : Nat} (hk : 0 < k) :
    roundUnits (num * k) (den * k) = roundUnits num den := by
  simp only [roundUnits, Nat.mul_div_mul_right _ _ hk]
  rw [Nat.mul_right_comm, roundQuotient_mul_right _ _ hk]

/-- **Rounding depends on the quotient alone.** -/
theorem roundUnits_congr {num den num' den' : Nat} (hden : 0 < den) (hden' : 0 < den')
    (h : num * den' = num' * den) : roundUnits num den = roundUnits num' den' := by
  rw [← roundUnits_mul_right num den hden', ← roundUnits_mul_right num' den' hden, h,
    Nat.mul_comm den den']

/-- A representable magnitude is left as it is. -/
theorem roundUnits_of_representable {units : Nat} (h : Representable units) {den : Nat}
    (hden : 0 < den) : roundUnits (units * den) den = units := by
  have hone : roundUnits (units * den) den = roundUnits units 1 :=
    roundUnits_congr hden Nat.one_pos (by rw [Nat.mul_one])
  have hstep : 0 < Nat.pow 2 (unusedBits units) := Nat.two_pow_pos _
  rw [hone, roundUnits, Nat.div_one, Nat.one_mul, roundQuotient_of_dvd hstep h.2,
    Nat.div_mul_cancel h.2]

/-- Less than half a unit goes to zero. -/
theorem roundUnits_eq_zero {num den : Nat} (h : 2 * num < den) : roundUnits num den = 0 := by
  have hdiv : num / den = 0 := Nat.div_eq_of_lt (by omega)
  have hmod : num % den = num := Nat.mod_eq_of_lt (by omega)
  have hstep : Nat.pow 2 (unusedBits 0) = 1 := rfl
  rw [roundUnits, hdiv, hstep, Nat.mul_one, Nat.mul_one,
    roundQuotient_of_lt (by rw [hmod]; exact h), hdiv]

/-- A quotient of 53 bits or more is not rounded below its leading bit. -/
theorem two_pow_log2_le_roundUnits {num den : Nat} (h : 52 ≤ Nat.log2 (num / den)) :
    2 ^ Nat.log2 (num / den) ≤ roundUnits num den := by
  have hq : num / den ≠ 0 := by
    intro hzero
    rw [hzero] at h
    exact absurd h (by decide)
  -- the quotient has 53 bits above the ones that its size cannot use
  have hbits : Nat.log2 (num / den) = 52 + unusedBits (num / den) := by
    rw [unusedBits]
    omega
  have hlead : 2 ^ 52 * 2 ^ unusedBits (num / den) ≤ num / den := by
    rw [← Nat.pow_add, ← hbits]
    exact Nat.log2_self_le hq
  have hround : 2 ^ 52 ≤ roundQuotient num (den * 2 ^ unusedBits (num / den)) := by
    refine Nat.le_trans ?_ (div_le_roundQuotient _ _)
    rw [← Nat.div_div_eq_div_mul]
    exact (Nat.le_div_iff_mul_le (Nat.two_pow_pos _)).2 hlead
  calc 2 ^ Nat.log2 (num / den) = 2 ^ 52 * 2 ^ unusedBits (num / den) := by
        rw [hbits, Nat.pow_add]
    _ ≤ roundUnits num den := Nat.mul_le_mul_right _ hround

/-- No quotient is rounded past 53 bits above the ones that its size cannot use. -/
theorem roundUnits_le_two_pow (num den : Nat) :
    roundUnits num den ≤ 2 ^ (53 + unusedBits (num / den)) := by
  have hq := div_two_pow_unusedBits_lt (num / den)
  rw [Nat.div_div_eq_div_mul] at hq
  rw [Nat.pow_add]
  exact Nat.mul_le_mul_right _ (Nat.le_trans (roundQuotient_le_succ _ _) hq)

/-- **Rounding never turns two quotients round.** -/
theorem roundUnits_mono {num num' : Nat} (den : Nat) (h : num ≤ num') :
    roundUnits num den ≤ roundUnits num' den := by
  have hq : num / den ≤ num' / den := Nat.div_le_div_right h
  have hlog : Nat.log2 (num / den) ≤ Nat.log2 (num' / den) := by
    rw [Nat.log2_eq_log_two, Nat.log2_eq_log_two]
    exact Nat.log_mono_right hq
  rcases Nat.lt_or_ge (unusedBits (num / den)) (unusedBits (num' / den)) with hlt | hge
  · -- there is a power of two that neither is rounded past
    rw [unusedBits, unusedBits] at hlt
    calc roundUnits num den ≤ 2 ^ (53 + unusedBits (num / den)) := roundUnits_le_two_pow num den
      _ ≤ 2 ^ Nat.log2 (num' / den) :=
        Nat.pow_le_pow_right (by decide) (by rw [unusedBits]; omega)
      _ ≤ roundUnits num' den := two_pow_log2_le_roundUnits (by omega)
  · -- both are rounded to steps of one size
    have hsame : unusedBits (num / den) = unusedBits (num' / den) := by
      rw [unusedBits, unusedBits] at hge ⊢
      omega
    rw [roundUnits, roundUnits, hsame]
    exact Nat.mul_le_mul_right _ (roundQuotient_mono _ h)

/-- A quotient past the largest magnitude stays past it. -/
theorem unitsBound_le_roundUnits {num den : Nat} (h : unitsBound ≤ num / den) :
    unitsBound ≤ roundUnits num den := by
  have hq : num / den ≠ 0 := Nat.ne_of_gt (Nat.lt_of_lt_of_le unitsBound_pos h)
  obtain ⟨k, hk⟩ : ∃ k, k = 2098 := ⟨_, rfl⟩
  rw [unitsBound_eq hk] at h ⊢
  have hlog : k ≤ Nat.log2 (num / den) := (Nat.le_log2 hq).2 h
  calc 2 ^ k ≤ 2 ^ Nat.log2 (num / den) := Nat.pow_le_pow_right (by decide) hlog
    _ ≤ roundUnits num den := two_pow_log2_le_roundUnits (by omega)

/-- Half a step of the largest magnitudes. -/
def halfLastStep : Nat := Nat.pow 2 2044

theorem halfLastStep_pos : 0 < halfLastStep := by
  unfold halfLastStep
  apply Nat.pow_pos
  decide

theorem unitsBound_eq_mul_halfLastStep : unitsBound = 2 ^ 54 * halfLastStep := by decide +kernel

theorem two_pow_eq_mul_halfLastStep {k : Nat} (hk : k = 2045) :
    Nat.pow 2 k = 2 * halfLastStep := by
  subst hk
  decide +kernel

/-- A magnitude at least half a step below the bound stays below it. -/
theorem roundUnits_lt_unitsBound {units : Nat} (h : units + halfLastStep < unitsBound) :
    roundUnits units 1 < unitsBound := by
  have hpos := halfLastStep_pos
  have hq := div_two_pow_unusedBits_lt units
  -- below the bound no step is wider than the last one
  have hbits : unusedBits units ≤ 2045 := by
    by_cases h0 : units = 0
    · rw [h0]
      decide
    · obtain ⟨k, hk⟩ : ∃ k, k = 2098 := ⟨_, rfl⟩
      have hlt : units < 2 ^ k := by
        rw [← unitsBound_eq hk]
        omega
      have hlog := (Nat.log2_lt h0).2 hlt
      rw [unusedBits]
      omega
  rw [roundUnits, Nat.div_one, Nat.one_mul, unitsBound_eq_mul_halfLastStep]
  rw [unitsBound_eq_mul_halfLastStep] at h
  -- either the steps are narrower than the last ones, or these are the last
  rcases Nat.lt_or_eq_of_le hbits with hsmall | hlarge
  · -- at most 2^53 steps of at most 2^2044 stay below the bound
    have hstep : Nat.pow 2 (unusedBits units) ≤ halfLastStep := by
      unfold halfLastStep
      apply Nat.pow_le_pow_right
      · decide
      · exact Nat.le_of_lt_succ hsmall
    have hround : roundQuotient units (Nat.pow 2 (unusedBits units)) ≤ 2 ^ 53 :=
      Nat.le_trans (roundQuotient_le_succ _ _) hq
    have hmul := Nat.mul_le_mul hround hstep
    omega
  · -- of the last steps, the uppermost quotient rounds down
    rw [two_pow_eq_mul_halfLastStep hlarge] at hq ⊢
    have hdivmod := Nat.div_add_mod units (2 * halfLastStep)
    have hround : roundQuotient units (2 * halfLastStep) < 2 ^ 53 := by
      rcases Nat.lt_or_eq_of_le (Nat.le_of_lt_succ hq) with hlt | htop
      · exact Nat.lt_of_le_of_lt (roundQuotient_le_succ _ _) (Nat.succ_lt_succ hlt)
      · rw [htop] at hdivmod
        rw [roundQuotient_of_lt (by omega)]
        exact hq
    have hmul := Nat.mul_le_mul_right (2 * halfLastStep) (Nat.le_sub_one_of_lt hround)
    omega

/-! ### The number -/

theorem ofUnits_congr (negative : Bool) {num den num' den' : Nat} (hden : 0 < den)
    (hden' : 0 < den') (h : num * den' = num' * den) :
    ofUnits negative num den = ofUnits negative num' den' := by
  have hround := roundUnits_congr hden hden' h
  simp only [ofUnits, hround]

/-- A magnitude that is rounded to is the magnitude of the number. -/
theorem ofUnits_of_roundUnits_eq (negative : Bool) {num den units : Nat} (h : Representable units)
    (hround : roundUnits num den = units) :
    ofUnits negative num den = .finite negative units h := by
  subst hround
  exact dif_pos h.1

theorem ofUnits_eq_zero (negative : Bool) {num den : Nat} (h : 2 * num < den) :
    ofUnits negative num den = zero negative :=
  ofUnits_of_roundUnits_eq negative representable_zero (roundUnits_eq_zero h)

theorem ofUnits_eq_infinite (negative : Bool) {num den : Nat} (h : unitsBound ≤ num / den) :
    ofUnits negative num den = .infinite negative :=
  dif_neg (Nat.not_lt.2 (unitsBound_le_roundUnits h))

theorem isFinite_ofUnits (negative : Bool) {units : Nat}
    (h : units + halfLastStep < unitsBound) : (ofUnits negative units 1).isFinite = true := by
  rw [ofUnits, dif_pos (roundUnits_lt_unitsBound h)]
  rfl

/-- What is rounded is a number. -/
theorem isNaN_ofUnits (negative : Bool) (num den : Nat) :
    (ofUnits negative num den).isNaN = false := by
  rw [ofUnits]
  split
  · rfl
  · rfl

end Binary64

end TableQuery
