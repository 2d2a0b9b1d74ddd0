/-
TableQuery/Proofs/Number/Nearest.lean

Rounding to the nearest, with ties to even.

`NearestEven m u` says what correct rounding is, without saying how it is
done: among all magnitudes of 53 significant bits `u` has the least distance
from `m`, and if another one has the same distance, the significand of `u` is
even.  The exponent has no upper end here; a magnitude that rounds past the
largest number is told apart afterwards, by the bound on what is
representable.

The program rounds to a multiple of the step that the size of the quotient
allows.  That is right because a multiple of a smaller step lies below the
power of two from which on the quotient's own step counts, and that power is a
multiple of the step as well (`exists_mul_step_between`).  So no magnitude
comes nearer than the multiples do, and a tie is one between multiples.

Main results: what the program rounds to is nearest (`nearestEven_roundUnits`),
nothing else is (`NearestEven.unique`), and hence a quotient has a finite
binary64 number exactly if correct rounding gives it one
(`ofUnits_eq_iff_roundsTo`).
-/
import Mathlib.Algebra.Order.Field.Basic
import Mathlib.Algebra.Order.Ring.Abs
import Mathlib.Data.Rat.Cast.Order
import Mathlib.Tactic.FieldSimp
import Mathlib.Tactic.Linarith
import Mathlib.Tactic.Ring
import TableQuery.Proofs.Number.Rounding

namespace TableQuery

/-! ### The nearest whole number -/

/-- How far a quotient is from a whole number, in parts of the denominator. -/
def remoteness (num den k : Nat) : Nat := ((num : ℤ) - k * den).natAbs

theorem abs_div_sub {den : Nat} (hden : 0 < den) (num k : Nat) :
    |(num : ℚ) / den - k| = (remoteness num den k : ℚ) / den := by
  have hpos : (0 : ℚ) < den := Nat.cast_pos.2 hden
  have hsub : (num : ℚ) / den - k = (((num : ℤ) - k * den : ℤ) : ℚ) / den := by
    push_cast
    field_simp
  rw [hsub, abs_div, abs_of_pos hpos, remoteness, Nat.cast_natAbs, Int.cast_abs]

/-- Downwards the distance is the rest with the whole parts in between. -/
theorem remoteness_of_le {num den k : Nat} (hk : k ≤ num / den) :
    remoteness num den k = (num / den - k) * den + num % den := by
  obtain ⟨j, hj⟩ := Nat.exists_eq_add_of_le hk
  have hnum := Nat.div_add_mod' num den
  rw [hj, Nat.add_mul] at hnum
  rw [remoteness, hj, Nat.add_sub_cancel_left, ← Nat.cast_mul]
  omega

theorem remoteness_of_gt {num den k : Nat} (hden : 0 < den) (hk : num / den < k) :
    remoteness num den k = (k - num / den - 1) * den + (den - num % den) := by
  obtain ⟨j, rfl⟩ := Nat.exists_eq_add_of_lt hk
  have hnum := Nat.div_add_mod' num den
  have hmod := Nat.mod_lt num hden
  rw [show num / den + j + 1 - num / den - 1 = j by omega, remoteness, ← Nat.cast_mul,
    Nat.add_mul, Nat.add_mul, Nat.one_mul]
  omega

theorem remoteness_div (num den : Nat) : remoteness num den (num / den) = num % den := by
  rw [remoteness_of_le (Nat.le_refl _), Nat.sub_self, Nat.zero_mul, Nat.zero_add]

theorem remoteness_div_succ {den : Nat} (hden : 0 < den) (num : Nat) :
    remoteness num den (num / den + 1) = den - num % den := by
  rw [remoteness_of_gt hden (Nat.lt_succ_self _)]
  simp

/-- A whole number that is neither of the two neighbours is a whole step
further away. -/
theorem add_min_le_remoteness {num den k : Nat} (hden : 0 < den) (hbelow : k ≠ num / den)
    (habove : k ≠ num / den + 1) :
    den + min (num % den) (den - num % den) ≤ remoteness num den k := by
  rcases Nat.lt_or_ge (num / den) k with hk | hk
  · have hstep := Nat.le_mul_of_pos_left den (show 0 < k - num / den - 1 by omega)
    rw [remoteness_of_gt hden hk]
    omega
  · have hstep := Nat.le_mul_of_pos_left den (show 0 < num / den - k by omega)
    rw [remoteness_of_le hk]
    omega

/-- A quotient is rounded to the nearer one of the whole numbers around it. -/
theorem remoteness_roundQuotient {den : Nat} (hden : 0 < den) (num : Nat) :
    remoteness num den (roundQuotient num den) = min (num % den) (den - num % den) := by
  have hbelow := remoteness_div num den
  have habove := remoteness_div_succ hden num
  simp only [roundQuotient]
  split_ifs <;> omega

/-- No whole number is nearer to a quotient than the one it is rounded to. -/
theorem remoteness_roundQuotient_le {den : Nat} (hden : 0 < den) (num k : Nat) :
    remoteness num den (roundQuotient num den) ≤ remoteness num den k := by
  rw [remoteness_roundQuotient hden]
  by_cases hbelow : k = num / den
  · rw [hbelow, remoteness_div]
    exact Nat.min_le_left _ _
  · by_cases habove : k = num / den + 1
    · rw [habove, remoteness_div_succ hden]
      exact Nat.min_le_right _ _
    · exact Nat.le_trans (Nat.le_add_left _ _) (add_min_le_remoteness hden hbelow habove)

/-- If another whole number is as near, the quotient is rounded to an even one. -/
theorem even_roundQuotient {num den k : Nat} (hden : 0 < den) (hne : k ≠ roundQuotient num den)
    (htie : remoteness num den (roundQuotient num den) = remoteness num den k) :
    Even (roundQuotient num den) := by
  have hbelow := remoteness_div num den
  have habove := remoteness_div_succ hden num
  rw [remoteness_roundQuotient hden] at htie
  -- what is as close as the nearest is one of the two neighbours of the quotient
  have hneighbour : k = num / den ∨ k = num / den + 1 := by
    by_contra hneither
    have hfar := add_min_le_remoteness hden (fun h => hneither (.inl h)) fun h => hneither (.inr h)
    omega
  simp only [roundQuotient] at hne ⊢
  rw [Nat.even_iff]
  rcases hneighbour with rfl | rfl
  · split_ifs at hne ⊢ <;> omega
  · split_ifs at hne ⊢ <;> omega

namespace Binary64

/-! ### Magnitudes of 53 significant bits -/

/-- A magnitude of 53 significant bits, of any size. -/
def Precise (units : Nat) : Prop := 2 ^ unusedBits units ∣ units

/-- The significant bits of a magnitude. -/
def significand (units : Nat) : Nat := units / 2 ^ unusedBits units

theorem Representable.precise {units : Nat} (h : Representable units) : Precise units := h.2

theorem precise_roundUnits (num den : Nat) : Precise (roundUnits num den) :=
  unusedBits_dvd_roundUnits num den

theorem unusedBits_mono {u v : Nat} (h : u ≤ v) : unusedBits u ≤ unusedBits v := by
  have hlog : Nat.log2 u ≤ Nat.log2 v := by
    rw [Nat.log2_eq_log_two, Nat.log2_eq_log_two]
    exact Nat.log_mono_right h
  rw [unusedBits, unusedBits]
  omega

theorem significand_lt (units : Nat) : significand units < 2 ^ 53 :=
  div_two_pow_unusedBits_lt units

theorem significand_mul {units : Nat} (h : Precise units) :
    significand units * 2 ^ unusedBits units = units :=
  Nat.div_mul_cancel h

/-- Where all 53 bits are used, the bits behind them are the unused ones. -/
theorem unusedBits_mul {r k : Nat} (hr : r < 2 ^ 53) (hfull : k = 0 ∨ 2 ^ 52 ≤ r) :
    unusedBits (r * 2 ^ k) = k := by
  rcases Nat.eq_zero_or_pos r with rfl | hpos
  · obtain rfl : k = 0 := by
      rcases hfull with hzero | hbits
      · exact hzero
      · exact absurd hbits (by decide)
    rfl
  -- the number has at most `53 + k` bits, and as many unless nothing was shifted out
  · have hne : r * 2 ^ k ≠ 0 := Nat.ne_of_gt (Nat.mul_pos hpos (Nat.two_pow_pos k))
    have hlt : Nat.log2 (r * 2 ^ k) < 53 + k := by
      rw [Nat.log2_lt hne, Nat.pow_add]
      exact Nat.mul_lt_mul_of_pos_right hr (Nat.two_pow_pos k)
    rw [unusedBits]
    rcases hfull with rfl | hbits
    · omega
    · have hle : 52 + k ≤ Nat.log2 (r * 2 ^ k) := by
        rw [Nat.le_log2 hne, Nat.pow_add]
        exact Nat.mul_le_mul_right _ hbits
      omega

/-- An even multiple of the step has an even significand. -/
theorem even_significand_mul {r k : Nat} (hr : r ≤ 2 ^ 53) (hfull : k = 0 ∨ 2 ^ 52 ≤ r)
    (heven : Even r) : Even (significand (r * 2 ^ k)) := by
  rcases Nat.lt_or_eq_of_le hr with hlt | rfl
  · rw [significand, unusedBits_mul hlt hfull, Nat.mul_div_cancel _ (Nat.two_pow_pos k)]
    exact heven
  · -- the next power of two has a step of twice the size
    have hnext : 2 ^ 53 * 2 ^ k = 2 ^ 52 * 2 ^ (k + 1) := by ring
    rw [significand, hnext, unusedBits_mul (by decide) (.inr (Nat.le_refl _)),
      Nat.mul_div_cancel _ (Nat.two_pow_pos _)]
    decide

/-! ### The step of a quotient -/

section Step

variable {num den : Nat}

/-- The multiples of a step are as far from a quotient as their factors are from
the quotient in steps. -/
theorem remoteness_mul (num den step k : Nat) :
    remoteness num den (k * step) = remoteness num (den * step) k := by
  rw [remoteness, remoteness]
  congr 2
  push_cast
  ring

/-- A magnitude with a smaller step than a quotient lies below a multiple of the
quotient's step that is no larger than the quotient. -/
theorem exists_mul_step_between {q v : Nat} (hv : Precise v) (hstep : ¬ 2 ^ unusedBits q ∣ v) :
    ∃ k, v < k * 2 ^ unusedBits q ∧ k * 2 ^ unusedBits q ≤ q := by
  -- a precise number off the steps of `q` has fewer bits, so a power of two lies between them
  have hbits : unusedBits v < unusedBits q := by
    by_contra hle
    exact hstep (Nat.dvd_trans (Nat.pow_dvd_pow 2 (Nat.not_lt.1 hle)) hv)
  rw [unusedBits, unusedBits] at hbits
  have hq : q ≠ 0 := by
    rintro rfl
    exact absurd hbits (by simp [Nat.log2_zero])
  have hv0 : v ≠ 0 := by
    rintro rfl
    exact hstep (Nat.dvd_zero _)
  have hpower : 2 ^ 52 * 2 ^ unusedBits q = 2 ^ Nat.log2 q := by
    rw [← Nat.pow_add, unusedBits]
    congr 1
    omega
  refine ⟨2 ^ 52, ?_, ?_⟩
  · rw [hpower, ← Nat.log2_lt hv0]
    omega
  · rw [hpower]
    exact Nat.log2_self_le hq

theorem roundUnits_eq_mul (num den : Nat) :
    roundUnits num den
      = roundQuotient num (den * 2 ^ unusedBits (num / den)) * 2 ^ unusedBits (num / den) :=
  rfl

/-- A magnitude with a smaller step is further away than what is rounded to. -/
theorem remoteness_lt_of_not_dvd {v : Nat} (hden : 0 < den) (hv : Precise v)
    (hstep : ¬ 2 ^ unusedBits (num / den) ∣ v) :
    remoteness num den (roundUnits num den) < remoteness num den v := by
  obtain ⟨k, hlow, hhigh⟩ := exists_mul_step_between hv hstep
  calc remoteness num den (roundUnits num den)
      ≤ remoteness num den (k * 2 ^ unusedBits (num / den)) := by
        rw [roundUnits_eq_mul, remoteness_mul, remoteness_mul]
        exact remoteness_roundQuotient_le (Nat.mul_pos hden (Nat.two_pow_pos _)) num k
    _ < remoteness num den v := by
        rw [remoteness_of_le hhigh, remoteness_of_le (by omega)]
        have hmul : (num / den - k * 2 ^ unusedBits (num / den)) * den < (num / den - v) * den :=
          Nat.mul_lt_mul_of_pos_right (by omega) hden
        omega

/-- **No magnitude is nearer to a quotient than the one it is rounded to.** -/
theorem remoteness_roundUnits_le {v : Nat} (hden : 0 < den) (hv : Precise v) :
    remoteness num den (roundUnits num den) ≤ remoteness num den v := by
  by_cases hstep : 2 ^ unusedBits (num / den) ∣ v
  · obtain ⟨k, rfl⟩ := hstep
    rw [Nat.mul_comm _ k, roundUnits_eq_mul, remoteness_mul, remoteness_mul]
    exact remoteness_roundQuotient_le (Nat.mul_pos hden (Nat.two_pow_pos _)) num k
  · exact Nat.le_of_lt (remoteness_lt_of_not_dvd hden hv hstep)

theorem roundQuotient_step_le (num den : Nat) :
    roundQuotient num (den * 2 ^ unusedBits (num / den)) ≤ 2 ^ 53 := by
  have hq := div_two_pow_unusedBits_lt (num / den)
  rw [Nat.div_div_eq_div_mul] at hq
  exact Nat.le_trans (roundQuotient_le_succ _ _) hq

/-- All 53 bits are used, unless the step is one unit. -/
theorem roundQuotient_step_full (num den : Nat) :
    unusedBits (num / den) = 0 ∨
      2 ^ 52 ≤ roundQuotient num (den * 2 ^ unusedBits (num / den)) := by
  rcases Nat.lt_or_ge (Nat.log2 (num / den)) 52 with hsmall | hlarge
  · left
    rw [unusedBits]
    omega
  · right
    have hbits : Nat.log2 (num / den) = 52 + unusedBits (num / den) := by
      rw [unusedBits]
      omega
    have hlead := two_pow_log2_le_roundUnits hlarge
    rw [roundUnits_eq_mul, hbits, Nat.pow_add] at hlead
    exact Nat.le_of_mul_le_mul_right hlead (Nat.two_pow_pos _)

/-- **If another magnitude is as near, the significand is even.** -/
theorem even_significand_roundUnits {v : Nat} (hden : 0 < den) (hv : Precise v)
    (hne : v ≠ roundUnits num den)
    (htie : remoteness num den (roundUnits num den) = remoteness num den v) :
    Even (significand (roundUnits num den)) := by
  by_cases hstep : 2 ^ unusedBits (num / den) ∣ v
  · obtain ⟨k, rfl⟩ := hstep
    rw [Nat.mul_comm _ k] at hne htie
    rw [roundUnits_eq_mul] at hne htie ⊢
    rw [remoteness_mul, remoteness_mul] at htie
    refine even_significand_mul (roundQuotient_step_le num den) (roundQuotient_step_full num den) ?_
    exact even_roundQuotient (Nat.mul_pos hden (Nat.two_pow_pos _)) (fun h => hne (by rw [h])) htie
  · exact absurd htie (Nat.ne_of_lt (remoteness_lt_of_not_dvd hden hv hstep))

end Step

/-! ### Correct rounding -/

/-- `u` is the magnitude of 53 significant bits that is nearest to `m`; of two
that are as near it is the one with the even significand. -/
structure NearestEven (m : ℚ) (u : Nat) : Prop where
  precise : Precise u
  nearest : ∀ v, Precise v → |m - u| ≤ |m - v|
  even : ∀ v, Precise v → v ≠ u → |m - u| = |m - v| → Even (significand u)

/-- **The program rounds to the nearest, with ties to even.** -/
theorem nearestEven_roundUnits (num : Nat) {den : Nat} (hden : 0 < den) :
    NearestEven (num / den) (roundUnits num den) where
  precise := precise_roundUnits num den
  nearest := by
    intro v hv
    have hpos : (0 : ℚ) < den := Nat.cast_pos.2 hden
    rw [abs_div_sub hden, abs_div_sub hden, div_le_div_iff_of_pos_right hpos, Nat.cast_le]
    exact remoteness_roundUnits_le hden hv
  even := by
    intro v hv hne htie
    have hpos : (0 : ℚ) < den := Nat.cast_pos.2 hden
    rw [abs_div_sub hden, abs_div_sub hden, div_left_inj' hpos.ne', Nat.cast_inj] at htie
    exact even_significand_roundUnits hden hv hne htie

/-- All 53 bits are used, unless the step is one unit. -/
theorem significand_full (u : Nat) : unusedBits u = 0 ∨ 2 ^ 52 ≤ significand u := by
  rcases Nat.lt_or_ge (Nat.log2 u) 52 with hsmall | hlarge
  · left
    rw [unusedBits]
    omega
  · right
    have hu : u ≠ 0 := by
      rintro rfl
      exact absurd hlarge (by decide)
    have hbits : 52 + unusedBits u = Nat.log2 u := by
      rw [unusedBits]
      omega
    rw [significand, Nat.le_div_iff_mul_le (Nat.two_pow_pos _), ← Nat.pow_add, hbits]
    exact Nat.log2_self_le hu

/-- The next magnitude is one step further. -/
theorem next_eq_mul {u : Nat} (hu : Precise u) :
    u + 2 ^ unusedBits u = (significand u + 1) * 2 ^ unusedBits u := by
  rw [Nat.add_mul, Nat.one_mul, significand_mul hu]

theorem precise_next {u : Nat} (hu : Precise u) : Precise (u + 2 ^ unusedBits u) := by
  rw [next_eq_mul hu]
  exact two_pow_unusedBits_dvd (significand_lt u)

/-- No magnitude lies between one and the next. -/
theorem next_le {u v : Nat} (hu : Precise u) (hv : Precise v) (h : u < v) :
    u + 2 ^ unusedBits u ≤ v := by
  have hstep : 2 ^ unusedBits u ∣ v - u :=
    Nat.dvd_sub (Nat.dvd_trans (Nat.pow_dvd_pow 2 (unusedBits_mono (Nat.le_of_lt h))) hv) hu
  have hle := Nat.le_of_dvd (Nat.sub_pos_of_lt h) hstep
  omega

/-- The magnitude next to one with an even significand has an odd one. -/
theorem odd_significand_next {u : Nat} (hu : Precise u) (heven : Even (significand u)) :
    Odd (significand (u + 2 ^ unusedBits u)) := by
  have hlt : significand u + 1 < 2 ^ 53 := by
    have hbound := significand_lt u
    rw [Nat.even_iff] at heven
    omega
  have hfull : unusedBits u = 0 ∨ 2 ^ 52 ≤ significand u + 1 :=
    (significand_full u).imp_right fun h => Nat.le_succ_of_le h
  rw [next_eq_mul hu, significand, unusedBits_mul hlt hfull,
    Nat.mul_div_cancel _ (Nat.two_pow_pos _)]
  exact heven.add_one

theorem NearestEven.not_lt {m : ℚ} {u v : Nat} (hu : NearestEven m u) (hv : NearestEven m v) :
    ¬ u < v := by
  intro hlt
  have htie : |m - u| = |m - v| :=
    le_antisymm (hu.nearest v hv.precise) (hv.nearest u hu.precise)
  have heven := hu.even v hv.precise (Nat.ne_of_gt hlt) htie
  -- the quotient lies half way, so whatever lies between the two would be nearer
  have hcast : (u : ℚ) < v := Nat.cast_lt.2 hlt
  have hmiddle : m = (u + v) / 2 := by
    rcases abs_eq_abs.1 htie with h | h <;> linarith
  have hnext : u + 2 ^ unusedBits u = v := by
    refine le_antisymm (next_le hu.precise hv.precise hlt) ?_
    by_contra hbetween
    have hlow : (u : ℚ) < (u + 2 ^ unusedBits u : Nat) :=
      Nat.cast_lt.2 (Nat.lt_add_of_pos_right (Nat.two_pow_pos _))
    have hhigh : ((u + 2 ^ unusedBits u : Nat) : ℚ) < v := Nat.cast_lt.2 (Nat.not_le.1 hbetween)
    have hnear := hu.nearest _ (precise_next hu.precise)
    generalize ((u + 2 ^ unusedBits u : Nat) : ℚ) = w at hlow hhigh hnear
    have hcloser : |m - w| < (v - u) / 2 := abs_lt.2 ⟨by linarith, by linarith⟩
    have hfar : |m - u| = (v - u) / 2 := by
      rw [abs_of_pos (by linarith)]
      linarith
    linarith
  have hodd := odd_significand_next hu.precise heven
  rw [hnext] at hodd
  exact Nat.not_even_iff_odd.2 hodd
    (hv.even u hu.precise (Nat.ne_of_lt hlt) htie.symm)

/-- **Correct rounding has one result.** -/
theorem NearestEven.unique {m : ℚ} {u v : Nat} (hu : NearestEven m u) (hv : NearestEven m v) :
    u = v :=
  Nat.le_antisymm (Nat.not_lt.1 (hv.not_lt hu)) (Nat.not_lt.1 (hu.not_lt hv))

theorem nearestEven_iff {num den u : Nat} (hden : 0 < den) :
    NearestEven (num / den) u ↔ roundUnits num den = u := by
  constructor
  · intro h
    exact (nearestEven_roundUnits num hden).unique h
  · rintro rfl
    exact nearestEven_roundUnits num hden

/-! ### Numbers -/

/-- A rational number is rounded to the finite number with this sign and the
magnitude nearest to its own.  There is none if that magnitude is past the
largest. -/
inductive RoundsTo (negative : Bool) (q : ℚ) : Binary64 → Prop
  | finite {u : Nat} (hu : Representable u) (h : NearestEven (|q| * unitsPerOne) u) :
      RoundsTo negative q (.finite negative u hu)

/-- **A quotient has a finite number exactly if correct rounding gives it one.** -/
theorem ofUnits_eq_iff_roundsTo {negative : Bool} {q : ℚ} {num den : Nat} (hden : 0 < den)
    (hq : |q| * unitsPerOne = num / den) (x : Binary64) :
    x.isFinite = true ∧ ofUnits negative num den = x ↔ RoundsTo negative q x := by
  constructor
  · rintro ⟨hfinite, rfl⟩
    -- what is rounded past the greatest double becomes an infinity, which is not finite
    by_cases hbound : roundUnits num den < unitsBound
    · have hrep : Representable (roundUnits num den) := ⟨hbound, precise_roundUnits num den⟩
      rw [ofUnits_of_roundUnits_eq negative hrep rfl]
      refine .finite hrep ?_
      rw [hq]
      exact nearestEven_roundUnits num hden
    · rw [ofUnits, dif_neg hbound] at hfinite
      cases hfinite
  · rintro ⟨hu, h⟩
    rw [hq, nearestEven_iff hden] at h
    exact ⟨rfl, ofUnits_of_roundUnits_eq negative hu h⟩

end Binary64

end TableQuery
