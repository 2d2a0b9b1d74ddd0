/-
TableQuery/Proofs/Number/Equality.lean

Numbers that are equal, though they need not be the same.

Zero has two signs and both are one number, so two cells with the same text
may hold different zeros.  `Equal` is the equality that the order knows
(`Equal.less_congr`): no comparison tells equal numbers apart.  It is no
congruence for every sum, because two infinities can add up to no number at
all; adding a finite number keeps it (`Equal.add_congr`), which is all that a
total needs.
-/
import TableQuery.Proofs.Number.Rounding

namespace TableQuery

namespace Binary64

/-- Equality as numbers: both zeros are equal, and `nan` equals nothing. -/
inductive Equal : Binary64 → Binary64 → Prop where
  | finite {n m : Bool} {u v : Nat} {hu : Representable u} {hv : Representable v}
      (h : signed n u = signed m v) : Equal (.finite n u hu) (.finite m v hv)
  | infinite (n : Bool) : Equal (.infinite n) (.infinite n)

theorem Equal.symm {x y : Binary64} (h : x.Equal y) : y.Equal x := by
  cases h with
  | finite h => exact .finite h.symm
  | infinite n => exact .infinite n

theorem Equal.trans {x y z : Binary64} (hxy : x.Equal y) (hyz : y.Equal z) : x.Equal z := by
  cases hxy with
  | finite hxy =>
    cases hyz with
    | finite hyz => exact .finite (hxy.trans hyz)
  | infinite n => exact hyz

/-- What equals a finite number is finite. -/
theorem Equal.isFinite {x y : Binary64} (h : x.Equal y) (hy : y.isFinite = true) :
    x.isFinite = true := by
  cases h with
  | finite h => rfl
  | infinite n => cases hy

/-- Everything but `nan` equals itself. -/
theorem equal_refl {x : Binary64} (h : x.isNaN = false) : x.Equal x := by
  cases x with
  | finite n u hu => exact .finite rfl
  | infinite n => exact .infinite n
  | nan => cases h

theorem isNaN_of_isFinite {x : Binary64} (h : x.isFinite = true) : x.isNaN = false := by
  cases x with
  | finite n u hu => rfl
  | infinite n => rfl
  | nan => cases h

theorem exists_of_isFinite {x : Binary64} (h : x.isFinite = true) :
    ∃ negative units hunits, x = finite negative units hunits := by
  cases x with
  | finite n u hu => exact ⟨n, u, hu, rfl⟩
  | infinite n => cases h
  | nan => cases h

theorem isNaN_ofInt (n : Int) : (ofInt n).isNaN = false := by
  rw [ofInt, ofQuotient]
  exact isNaN_ofUnits _ _ _

@[simp] theorem signed_zero (negative : Bool) : signed negative 0 = 0 := by
  cases negative <;> rfl

@[simp] theorem natAbs_signed (negative : Bool) (n : Nat) : (signed negative n).natAbs = n := by
  cases negative with
  | false => rfl
  | true => exact Int.natAbs_neg n

/-- The sign of a number without its sign at zero is enough to give it back. -/
theorem signed_sign (negative : Bool) {n u : Nat} (h : n = 0 → u = 0) :
    signed (decide (signed negative n < 0)) u = signed negative u := by
  rcases Nat.eq_zero_or_pos n with hn | hn
  · rw [h hn, signed_zero, signed_zero]
  · cases negative with
    | false =>
      have hsign : ¬ signed false n < 0 := Int.not_lt.2 (Int.natCast_nonneg n)
      rw [decide_eq_false hsign]
    | true =>
      have hsign : signed true n < 0 := Int.neg_neg_of_pos (Int.natCast_pos.2 hn)
      rw [decide_eq_true hsign]

theorem equal_zero (negative negative' : Bool) : (zero negative).Equal (zero negative') :=
  .finite (by rw [signed_zero, signed_zero])

/-! ### Comparison -/

/-- **The order does not tell equal numbers apart.** -/
theorem Equal.less_congr {x x' y y' : Binary64} (hx : x.Equal x') (hy : y.Equal y') :
    x.less y = x'.less y' := by
  cases hx with
  | finite hx =>
    cases hy with
    | finite hy => rw [less, less, hx, hy]
    | infinite m => rfl
  | infinite n =>
    cases hy with
    | finite hy => rfl
    | infinite m => rfl

theorem Equal.order_congr {x x' y y' : Binary64} (hx : x.Equal x') (hy : y.Equal y') :
    x.order y = x'.order y' := by
  rw [order, order, hx.less_congr hy, hy.less_congr hx]

/-! ### Sums -/

/-- **Adding a finite number keeps equality.** -/
theorem Equal.add_congr {x x' y y' : Binary64} (hx : x.Equal x') (hy : y.Equal y')
    (hfinite : y.isFinite = true) : (x.add y).Equal (x'.add y') := by
  cases hy with
  | infinite m => cases hfinite
  | finite hy =>
    cases hx with
    | infinite n => exact .infinite n
    | finite hx =>
      rw [add, add, hx, hy]
      split
      -- the sum is zero, with a sign that depends on the signs of both terms
      · exact equal_zero _ _
      · exact equal_refl (isNaN_ofUnits _ _ _)

end Binary64

end TableQuery
