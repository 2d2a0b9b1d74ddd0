/-
TableQuery/Proofs/Number/Whole.lean

Whole numbers as binary64 numbers.

A whole number is compared as the binary64 number nearest to it (`ofInt`), and
rounding never turns two numbers round.  So of two whole numbers the comparison
says what is right or that they are equal, and it says that they are equal
exactly if both have the same nearest binary64 number (`order_ofInt`).  Up to
2^53 on either side of zero every whole number is its own nearest number
(`ofInt_injOn`); the next one, 2^53 + 1, shares its own with 2^53.

To compare, all numbers are taken in units of 2^-1074, with their signs
(`wholeUnits`).
-/
import Mathlib.Data.Set.Function
import TableQuery.Proofs.Number.Equality
import TableQuery.Proofs.Number.Notation

namespace TableQuery

namespace Binary64

/-! ### In units -/

/-- The units of the binary64 number nearest to a whole number. -/
def wholeUnits (n : Int) : Int :=
  signed (n < 0) (roundUnits (n.natAbs * unitsPerOne) 1)

/-- In range, the nearest number is finite and has these units. -/
theorem exists_ofInt_eq {n : Int} (h : n.natAbs < integerBound) :
    ∃ hunits, ofInt n = .finite (n < 0) (roundUnits (n.natAbs * unitsPerOne) 1) hunits := by
  have hfinite := isFinite_ofInt h
  rw [ofInt, ofQuotient, ofUnits] at hfinite ⊢
  split at hfinite
  · next hlt => exact ⟨_, dif_pos hlt⟩
  · cases hfinite

/-- Signed numbers are in order if their magnitudes are, from zero up, and if
they are in the other order, below zero. -/
theorem signed_mono {m n : Int} {u v : Nat} (h : m ≤ n) (hpos : 0 ≤ m → u ≤ v)
    (hneg : n < 0 → v ≤ u) : signed (m < 0) u ≤ signed (n < 0) v := by
  rw [signed, signed]
  simp only [decide_eq_true_eq]
  split_ifs with hm hn hn <;> omega

/-- **Rounding never turns two whole numbers round.** -/
theorem wholeUnits_mono {m n : Int} (h : m ≤ n) : wholeUnits m ≤ wholeUnits n := by
  refine signed_mono h ?_ ?_
  · intro hm
    exact roundUnits_mono 1 (Nat.mul_le_mul_right _ (by omega))
  · intro hn
    exact roundUnits_mono 1 (Nat.mul_le_mul_right _ (by omega))

/-! ### Numbers that need no rounding -/

/-- A whole number of at most 53 bits is representable. -/
theorem representable_whole {k : Nat} (h : k ≤ 2 ^ 53) : Representable (k * unitsPerOne) := by
  constructor
  · have hlast : 2 ^ 53 * unitsPerOne < unitsBound := by decide +kernel
    exact Nat.lt_of_le_of_lt (Nat.mul_le_mul_right _ h) hlast
  · rw [Decimal.unitsPerOne_eq_pow]
    generalize Decimal.exactPlaces = places
    exact two_pow_unusedBits_dvd h

/-- A magnitude in steps of one size, with its sign. -/
theorem signed_natAbs_mul (n : Int) (step : Nat) : signed (n < 0) (n.natAbs * step) = n * step := by
  rw [signed, Int.natCast_mul]
  simp only [decide_eq_true_eq]
  split_ifs with hn
  · rw [Int.ofNat_natAbs_of_nonpos (Int.le_of_lt hn), Int.neg_mul, Int.neg_neg]
  · rw [Int.natAbs_of_nonneg (Int.not_lt.1 hn)]

theorem wholeUnits_of_le {n : Int} (h : n.natAbs ≤ 2 ^ 53) : wholeUnits n = n * unitsPerOne := by
  have hround := roundUnits_of_representable (representable_whole h) Nat.one_pos
  rw [Nat.mul_one] at hround
  rw [wholeUnits, hround, signed_natAbs_mul]

/-- Rounding keeps the sign of a whole number. -/
theorem wholeUnits_neg_iff {n : Int} : wholeUnits n < 0 ↔ n < 0 := by
  have hone : (0 : Int) < unitsPerOne := Int.natCast_pos.2 unitsPerOne_pos
  constructor
  · intro h
    by_contra hn
    have hmono : wholeUnits 0 ≤ wholeUnits n := wholeUnits_mono (Int.not_lt.1 hn)
    rw [wholeUnits_of_le (n := 0) (by decide), Int.zero_mul] at hmono
    omega
  · intro h
    have hmono : wholeUnits n ≤ wholeUnits (-1) := wholeUnits_mono (by omega)
    rw [wholeUnits_of_le (n := -1) (by decide)] at hmono
    omega

/-! ### Comparison -/

/-- Two whole numbers have the same nearest number if it has the same units. -/
theorem ofInt_eq_iff {m n : Int} (hm : m.natAbs < integerBound) (hn : n.natAbs < integerBound) :
    ofInt m = ofInt n ↔ wholeUnits m = wholeUnits n := by
  obtain ⟨hmu, hmeq⟩ := exists_ofInt_eq hm
  obtain ⟨hnu, hneq⟩ := exists_ofInt_eq hn
  constructor
  · intro h
    rw [hmeq, hneq, finite.injEq] at h
    rw [wholeUnits, wholeUnits, h.1, h.2]
  · intro h
    have hsign : (m < 0) = (n < 0) := by rw [← wholeUnits_neg_iff, h, wholeUnits_neg_iff]
    have hunits := congrArg Int.natAbs h
    rw [wholeUnits, wholeUnits, natAbs_signed, natAbs_signed] at hunits
    rw [hmeq, hneq, finite.injEq]
    exact ⟨by simp only [hsign], hunits⟩

/-- Whole numbers in range are compared by their units. -/
theorem less_ofInt {m n : Int} (hm : m.natAbs < integerBound) (hn : n.natAbs < integerBound) :
    less (ofInt m) (ofInt n) = decide (wholeUnits m < wholeUnits n) := by
  obtain ⟨hmu, hmeq⟩ := exists_ofInt_eq hm
  obtain ⟨hnu, hneq⟩ := exists_ofInt_eq hn
  rw [hmeq, hneq, less, wholeUnits, wholeUnits]

/-- **Whole numbers are ordered as far as binary64 numbers tell them apart.** -/
theorem order_ofInt {m n : Int} (hm : m.natAbs < integerBound) (hn : n.natAbs < integerBound) :
    order (ofInt m) (ofInt n) = if ofInt m = ofInt n then .eq else compare m n := by
  rw [order, less_ofInt hm hn, less_ofInt hn hm]
  simp only [ofInt_eq_iff hm hn, decide_eq_true_eq]
  -- rounding keeps the order or makes two numbers one, so each side has two cases
  rcases Int.lt_trichotomy m n with hlt | rfl | hgt
  · rcases Int.lt_or_eq_of_le (wholeUnits_mono (Int.le_of_lt hlt)) with hunits | hunits
    · rw [if_pos hunits, if_neg (Int.ne_of_lt hunits), Int.compare_eq_lt.2 hlt]
    · rw [hunits, if_neg (Int.lt_irrefl _), if_neg (Int.lt_irrefl _), if_pos rfl]
  · rw [if_pos rfl, if_neg (Int.lt_irrefl _), if_neg (Int.lt_irrefl _)]
  · rcases Int.lt_or_eq_of_le (wholeUnits_mono (Int.le_of_lt hgt)) with hunits | hunits
    · rw [if_neg (Int.lt_asymm hunits), if_pos hunits, if_neg (Int.ne_of_gt hunits),
        Int.compare_eq_gt.2 hgt]
    · rw [hunits, if_neg (Int.lt_irrefl _), if_neg (Int.lt_irrefl _), if_pos rfl]

/-- **Up to 2^53 no two whole numbers have the same nearest number.** -/
theorem ofInt_injOn : Set.InjOn ofInt {n | n.natAbs ≤ 2 ^ 53} := by
  intro m hm n hn h
  have hlast : 2 ^ 53 < integerBound := by decide +kernel
  rw [ofInt_eq_iff (Nat.lt_of_le_of_lt hm hlast) (Nat.lt_of_le_of_lt hn hlast),
    wholeUnits_of_le hm, wholeUnits_of_le hn] at h
  exact Int.eq_of_mul_eq_mul_right (Int.natCast_ne_zero.2 (Nat.ne_of_gt unitsPerOne_pos)) h

end Binary64

end TableQuery
