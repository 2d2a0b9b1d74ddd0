/-
TableQuery/Proofs/Cell/Order.lean

The comparison of cells, read in both directions.

Comparison looks at two numbers where there are two and at texts otherwise, so
it is no order: among `10`, `1a` and `9` each comes before the next, and the
last before the first.  It is one-way, though (`Key.order_swap`): to compare
the other way round is to swap the outcome.  This holds for all numbers,
infinities and `nan` included, and it is all that sorting relies on.
-/
import TableQuery.Proofs.Rows.Arrangement
import TableQuery.Rows.Selection

namespace TableQuery

/-! ### Numbers -/

namespace Binary64

/-- No two numbers are less than each other. -/
theorem less_asymm {x y : Binary64} (h : less x y = true) : less y x = false := by
  -- finite numbers by their units, infinities by their sign, and NaN is never less
  cases x with
  | finite n u hu =>
    cases y with
    | finite m v hv =>
      simp only [less, decide_eq_true_eq, decide_eq_false_iff_not] at h ⊢
      omega
    | infinite m => simpa [less] using h
    | nan => simp [less] at h
  | infinite n =>
    cases y with
    | finite m v hv => simpa [less] using h
    | infinite m =>
      cases n <;> cases m <;> simp [less] at h ⊢
    | nan => simp [less] at h
  | nan => simp [less] at h

theorem order_swap (x y : Binary64) : order x y = (order y x).swap := by
  rcases hxy : less x y with - | -
  · rcases hyx : less y x with - | -
    · simp [order, hxy, hyx]
    · simp [order, hxy, hyx]
  · simp [order, hxy, less_asymm hxy]

end Binary64

/-! ### Cells -/

namespace Cell

/-- Comparing two keys the other way round swaps the outcome. -/
theorem Key.order_swap (a b : Key) : Key.order a b = (Key.order b a).swap := by
  obtain ⟨x?, s⟩ := a
  obtain ⟨y?, t⟩ := b
  have htext : compare s t = (compare t s).swap := Std.OrientedOrd.eq_swap
  rcases x? with - | x
  · rcases y? with - | y
    · exact htext
    · exact htext
  · rcases y? with - | y
    · exact htext
    · exact Binary64.order_swap x y

end Cell

/-- No two keys come before each other in a sort, whatever its direction. -/
theorem SortOrder.oneWay_before (s : SortOrder) : OneWay s.before := by
  intro a b h
  rw [before, decide_eq_true_eq] at h
  rw [before, decide_eq_false_iff_not, Cell.Key.order_swap, h]
  cases s.descending
  · decide
  · decide

end TableQuery
