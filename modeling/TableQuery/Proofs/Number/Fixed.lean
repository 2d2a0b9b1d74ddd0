/-
TableQuery/Proofs/Number/Fixed.lean

Numbers with a set number of places.

The fixed form of a finite number is a well-formed spelling, so it says a number
itself: the number that is shown, rounded to whole parts of one last place
(`exists_written_fixed`).  Rounding does not turn numbers round, so of two
numbers the fixed forms never say that the lesser is greater
(`fixedUnits_mono`).  They may say that both are equal.
-/
import TableQuery.Proofs.Cell.Numeral
import TableQuery.Proofs.Number.Notation
import TableQuery.Proofs.Number.Sums

namespace TableQuery

open Text

/-! ### The spelling -/

theorem le_length_digitsPadded (width n : Nat) : width ≤ (digitsPadded width n).length := by
  rw [digitsPadded, padZeros, List.length_append, List.length_replicate]
  omega

/-- Digits with the last of them behind a point. -/
def Spelling.ofFixed (negative : Bool) (places n : Nat) : Spelling where
  negative
  whole := (digitsPadded (places + 1) n).take ((digitsPadded (places + 1) n).length - places)
  fraction := some
    ((digitsPadded (places + 1) n).drop ((digitsPadded (places + 1) n).length - places))
  exponent := none

namespace Spelling

variable (negative : Bool) (places n : Nat)

theorem wellFormed_ofFixed : (ofFixed negative places n).WellFormed where
  whole_ne_nil := by
    have hlength := le_length_digitsPadded (places + 1) n
    rw [← List.length_pos_iff, ofFixed, List.length_take]
    omega
  whole_digits := fun c hc => allDigits_digitsPadded _ n c (List.mem_of_mem_take hc)
  fraction_digits := by
    rintro cs hcs c hc
    obtain rfl := Option.some.inj hcs
    exact allDigits_digitsPadded _ n c (List.mem_of_mem_drop hc)
  exponent_digits := fun _ hp => nomatch hp

/-- The digits count parts of one last place. -/
theorem value_ofFixed :
    (ofFixed negative places n).numeral.value = (Binary64.signed negative n : ℚ) / 10 ^ places := by
  have hcoefficient : (ofFixed negative places n).numeral.coefficient = n := by
    rw [coefficient_numeral, ofFixed, Option.getD_some, List.take_append_drop,
      ofDigitChars_digitsPadded]
  have hscale : (ofFixed negative places n).numeral.scale = -(places : Int) := by
    have hlength := le_length_digitsPadded (places + 1) n
    rw [scale_numeral, ofFixed, power, Option.getD_some, List.length_drop]
    omega
  have hsign : (Binary64.signed negative n : ℚ) = (if negative then -1 else 1) * n := by
    cases negative <;> simp [Binary64.signed]
  show (if negative then -1 else 1 : ℚ) * (ofFixed negative places n).numeral.coefficient *
    10 ^ (ofFixed negative places n).numeral.scale = _
  rw [hcoefficient, hscale, hsign, zpow_neg, zpow_natCast, div_eq_mul_inv]

end Spelling

namespace Binary64

/-- The parts of one last place that a number is rounded to, from its place. -/
def fixedUnits (places : Nat) (n : ℤ) : ℤ :=
  signed (n < 0) (roundQuotient (n.natAbs * 10 ^ places) unitsPerOne)

theorem fixedUnits_mono (places : Nat) {m n : ℤ} (h : m ≤ n) :
    fixedUnits places m ≤ fixedUnits places n := by
  apply signed_mono h
  · intro hm
    exact roundQuotient_mono _ (Nat.mul_le_mul_right _ (by omega))
  · intro hn
    exact roundQuotient_mono _ (Nat.mul_le_mul_right _ (by omega))

/-- Numbers in order are in order when they are rounded to some places. -/
theorem AtMost.fixedUnits_div_le {x y : Binary64} (h : x.AtMost y) (places : Nat) :
    (fixedUnits places x.rank : ℚ) / 10 ^ places ≤ fixedUnits places y.rank / 10 ^ places := by
  have hunits := fixedUnits_mono places (atMost_iff_rank_le.1 h).2.2
  exact div_le_div_of_nonneg_right (Int.cast_le.2 hunits) (by positivity)

/-- The fixed form of a finite number is spelled. -/
theorem toList_fixed (negative : Bool) {units : Nat} (h : Representable units) (places : Nat) :
    ((finite negative units h).fixed places).toList
      = (Spelling.ofFixed negative places
          (roundQuotient (units * 10 ^ places) unitsPerOne)).chars := by
  rw [fixed, withSign_eq_signed, String.toList_ofList]
  simp [Spelling.chars, Spelling.ofFixed, Spelling.pointed, Spelling.powered]

/-- There is no white space in a fixed form. -/
theorem isBlank_of_mem_fixed {x : Binary64} {places : Nat} {c : Char}
    (hc : c ∈ (x.fixed places).toList) : isBlank c = false := by
  -- digits for a finite number, and two words for what is not finite
  cases x with
  | finite negative units h =>
    rw [toList_fixed] at hc
    exact Spelling.isBlank_of_mem_chars (Spelling.wellFormed_ofFixed _ _ _) hc
  | infinite negative =>
    have hletters : ('-' :: infinityText).all (isBlank · = false) = true := by decide
    rw [fixed, withSign, String.toList_ofList] at hc
    split at hc
    · exact of_decide_eq_true (List.all_eq_true.1 hletters c hc)
    · exact of_decide_eq_true (List.all_eq_true.1 hletters c (List.mem_cons_of_mem _ hc))
  | nan =>
    have hletters : nanText.toList.all (isBlank · = false) = true := by decide
    exact of_decide_eq_true (List.all_eq_true.1 hletters c hc)

/-- **The fixed form says the number, rounded to that many places.** -/
theorem exists_written_fixed {x : Binary64} (hx : x.isFinite = true) (places : Nat) :
    ∃ n : Numeral, n.Written (x.fixed places).toList ∧
      n.value = (fixedUnits places x.rank : ℚ) / 10 ^ places := by
  obtain ⟨negative, units, hunits, rfl⟩ := exists_of_isFinite hx
  have hchars := toList_fixed negative hunits places
  generalize hparts : roundQuotient (units * 10 ^ places) unitsPerOne = parts at hchars
  refine ⟨_, hchars ▸ Spelling.written_chars (Spelling.wellFormed_ofFixed negative places parts), ?_⟩
  have hzero : units = 0 → parts = 0 := by
    rintro rfl
    rw [← hparts, Nat.zero_mul, roundQuotient_of_dvd unitsPerOne_pos (Nat.dvd_zero _),
      Nat.zero_div]
  rw [Spelling.value_ofFixed, fixedUnits, rank, natAbs_signed, hparts, signed_sign negative hzero]

end Binary64

end TableQuery
