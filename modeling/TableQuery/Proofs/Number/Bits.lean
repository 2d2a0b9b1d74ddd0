/-
TableQuery/Proofs/Number/Bits.lean

Whole numbers of 53 bits.

The nearest binary64 number of a whole number is a whole number again, the one
of at most 53 significant bits that is nearest to it (`NearestWhole`).  For the
program counts in units of 2^-1074 and rounds by the size of the count, and a
larger unit makes the step smaller in the same measure
(`roundUnits_mul_two_pow`).  So the unit does not matter, and rounding can be
looked at in whole numbers.  From `integerBound` on the nearest magnitude is
past the largest number (`ofInt_of_le`).

Main results: what a whole number in range becomes (`exists_ofInt_eq_roundWhole`),
and that it stays itself exactly if it is a binary64 number
(`roundWhole_eq_iff`).
-/
import TableQuery.Proofs.Number.Nearest
import TableQuery.Proofs.Number.Whole

namespace TableQuery

namespace Binary64

/-! ### Rounding to whole numbers -/

/-- A magnitude of 53 significant bits is left as it is, of any size. -/
theorem roundUnits_of_precise {u : Nat} (h : Precise u) : roundUnits u 1 = u := by
  rw [roundUnits_eq_mul, Nat.div_one, Nat.one_mul, roundQuotient_of_dvd (Nat.two_pow_pos _) h]
  exact Nat.div_mul_cancel h

theorem precise_of_le {u : Nat} (h : u ≤ 2 ^ 53) : Precise u := by
  have hstep : 2 ^ unusedBits (u * 1) ∣ u * 1 := two_pow_unusedBits_dvd (k := 0) h
  rwa [Nat.mul_one] at hstep

theorem unusedBits_mul_two_pow {u : Nat} (h : 52 ≤ Nat.log2 u) (k : Nat) :
    unusedBits (u * 2 ^ k) = unusedBits u + k := by
  have hu : u ≠ 0 := by
    rintro rfl
    exact absurd h (by decide)
  have hlog : Nat.log2 (u * 2 ^ k) = Nat.log2 u + k := by
    rw [Nat.log2_eq_iff (Nat.mul_ne_zero hu (Nat.two_pow_pos k).ne')]
    obtain ⟨hlow, hhigh⟩ := (Nat.log2_eq_iff hu).1 rfl
    rw [Nat.add_right_comm, Nat.pow_add, Nat.pow_add]
    exact ⟨Nat.mul_le_mul_right _ hlow, Nat.mul_lt_mul_of_pos_right hhigh (Nat.two_pow_pos k)⟩
  rw [unusedBits, unusedBits, hlog]
  omega

/-- **Rounding does not depend on the unit**, as long as the unit is a power of
two of the one before. -/
theorem roundUnits_mul_two_pow (u k : Nat) : roundUnits (u * 2 ^ k) 1 = roundUnits u 1 * 2 ^ k := by
  rcases Nat.lt_or_ge (Nat.log2 u) 52 with hsmall | hlarge
  · -- few bits are not rounded in either unit
    have hu : u ≤ 2 ^ 53 := by
      have hlt : u < 2 ^ (Nat.log2 u + 1) := Nat.lt_log2_self
      exact Nat.le_trans hlt.le (Nat.pow_le_pow_right (by decide) (by omega))
    rw [roundUnits_of_precise (precise_of_le hu)]
    exact roundUnits_of_precise (two_pow_unusedBits_dvd hu)
  · -- otherwise the step is as many times larger as the magnitude
    rw [roundUnits_eq_mul, roundUnits_eq_mul, Nat.div_one, Nat.div_one,
      unusedBits_mul_two_pow hlarge, Nat.pow_add, Nat.one_mul, Nat.one_mul,
      roundQuotient_mul_right _ _ (Nat.two_pow_pos k), Nat.mul_assoc]

theorem roundUnits_mul_unitsPerOne (u : Nat) :
    roundUnits (u * unitsPerOne) 1 = roundUnits u 1 * unitsPerOne := by
  rw [Decimal.unitsPerOne_eq_pow, roundUnits_mul_two_pow]

end Binary64

/-! ### The nearest whole number of 53 bits -/

open Binary64

/-- `m` is the whole number of at most 53 significant bits that is nearest to
`n`, and of two that are as near the one with the even significand. -/
structure NearestWhole (n m : Int) : Prop where
  magnitude : NearestEven n.natAbs m.natAbs
  sign : m < 0 ↔ n < 0

/-- A whole number rounded to 53 significant bits. -/
def roundWhole (n : Int) : Int := signed (n < 0) (roundUnits n.natAbs 1)

theorem natAbs_roundWhole (n : Int) : (roundWhole n).natAbs = roundUnits n.natAbs 1 :=
  natAbs_signed _ _

theorem nearestWhole_roundWhole (n : Int) : NearestWhole n (roundWhole n) where
  magnitude := by
    have hround := nearestEven_roundUnits n.natAbs Nat.one_pos
    rwa [Nat.cast_one, div_one, ← natAbs_roundWhole] at hround
  sign := by
    have hone : 1 ≤ n.natAbs → 1 ≤ roundUnits n.natAbs 1 := by
      intro h
      have hmono := roundUnits_mono 1 h
      rwa [roundUnits_of_precise (precise_of_le (by decide : 1 ≤ 2 ^ 53))] at hmono
    rw [roundWhole, signed]
    simp only [decide_eq_true_eq]
    split_ifs with hn <;> omega

/-! ### Whole numbers past the largest -/

/-- The bound for whole numbers as a count of steps. -/
theorem integerBound_eq_mul : integerBound = (2 ^ 54 - 1) * 2 ^ 970 := by decide +kernel

theorem unitsBound_eq_mul : unitsBound = 2 ^ 54 * 2 ^ 970 * unitsPerOne := by decide +kernel

/-- From the bound on, a whole number is rounded past the largest magnitude. -/
theorem unitsBound_le_of_le {k : Nat} (h : integerBound ≤ k) :
    unitsBound ≤ roundUnits (k * unitsPerOne) 1 := by
  have hlast : roundUnits (2 ^ 54 - 1) 1 = 2 ^ 54 := by decide +kernel
  calc unitsBound = roundUnits integerBound 1 * unitsPerOne := by
        rw [unitsBound_eq_mul, integerBound_eq_mul, roundUnits_mul_two_pow, hlast]
    _ ≤ roundUnits k 1 * unitsPerOne := Nat.mul_le_mul_right _ (roundUnits_mono 1 h)
    _ = roundUnits (k * unitsPerOne) 1 := (roundUnits_mul_unitsPerOne k).symm

theorem ofInt_of_le {n : Int} (h : integerBound ≤ n.natAbs) : ofInt n = .infinite (n < 0) := by
  rw [ofInt, ofQuotient, ofUnits, dif_neg (Nat.not_lt.2 (unitsBound_le_of_le h))]

/-- **A whole number in range becomes the nearest one of 53 bits.** -/
theorem exists_ofInt_eq_roundWhole {n : Int} (h : n.natAbs < integerBound) :
    ∃ hunits, ofInt n = .finite (n < 0) ((roundWhole n).natAbs * unitsPerOne) hunits := by
  rw [natAbs_roundWhole, ← roundUnits_mul_unitsPerOne]
  exact exists_ofInt_eq h

/-- **A whole number in range is left as it is exactly if it is a binary64
number.** -/
theorem roundWhole_eq_iff {n : Int} :
    n.natAbs < integerBound ∧ roundWhole n = n ↔ Representable (n.natAbs * unitsPerOne) := by
  -- rounding keeps the sign, so only the size can change
  have hsame : roundWhole n = n ↔ roundUnits n.natAbs 1 = n.natAbs := by
    rw [← natAbs_roundWhole]
    have hsign := (nearestWhole_roundWhole n).sign
    omega
  rw [hsame]
  constructor
  · rintro ⟨hrange, hround⟩
    obtain ⟨hunits, -⟩ := exists_ofInt_eq_roundWhole hrange
    rwa [natAbs_roundWhole, hround] at hunits
  · intro h
    have hround := roundUnits_of_precise h.precise
    rw [roundUnits_mul_unitsPerOne] at hround
    refine ⟨?_, Nat.eq_of_mul_eq_mul_right unitsPerOne_pos hround⟩
    -- a size past the bound is rounded past it as well, and no double is there
    by_contra hrange
    have hbound := unitsBound_le_of_le (Nat.not_lt.1 hrange)
    rw [roundUnits_mul_unitsPerOne, hround] at hbound
    exact absurd h.1 (Nat.not_lt.2 hbound)

end TableQuery
