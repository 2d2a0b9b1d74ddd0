/-
TableQuery/Proofs/Summary/Finite.lean

Which numbers are finite, from the decoded value to the statistics.

Text that is read as a number is read as a finite one or not at all, whole
numbers and quotients out of range have no cell, and what is no number becomes
an absent cell.  An infinite binary64 number is the one value that passes: it
becomes a number cell (`Cell.isInfinite_iff`), and its number counts like any
other.  Nothing else brings an infinity in, so the number of a cell is finite or
absent exactly if the cell was not made of an infinity, and the least and the
greatest number of a column are finite exactly if no row has such a cell there.
The least number alone would not show it: it is finite where the only infinity
is the positive one.

Main result: `statistics_finite`.
-/
import TableQuery.Proofs.Answer.Reading
import TableQuery.Proofs.Summary.Statistics

namespace TableQuery

/-! ### Cells -/

/-- A decoded value is an infinite binary64 number, in either of its forms. -/
def Datum.InfiniteReal (d : Datum) : Prop := ∃ negative, d.unstored = .real (.infinite negative)

theorem realOfRatio_isFinite {n : Int} {k : Nat} {x : Binary64} (h : realOfRatio n k = .ok x) :
    x.isFinite = true := by
  rw [realOfRatio] at h
  split at h
  · next hfinite => exact Except.ok.inj h ▸ hfinite
  · cases h

namespace Cell

variable {c : Cell} {d : Datum}

theorem isInfinite_ofReal (x : Binary64) :
    (ofReal x).isInfinite = true ↔ ∃ n, x = .infinite n := by
  cases x with
  | finite n u hu => exact iff_of_false Bool.noConfusion (fun ⟨_, h⟩ => nomatch h)
  | infinite n => exact iff_of_true rfl ⟨n, rfl⟩
  | nan => exact iff_of_false Bool.noConfusion (fun ⟨_, h⟩ => nomatch h)

theorem not_isInfinite_of_ratio {n : Int} {k : Nat} (h : Cell.of (.ratio n k) = .ok c) :
    c.isInfinite = false := by
  rw [Cell.of] at h
  rcases hx : realOfRatio n k with e | x
  · rw [hx] at h
    cases h
  · rw [hx] at h
    obtain rfl : ofReal x = c := Except.ok.inj h
    rw [← Bool.not_eq_true, isInfinite_ofReal]
    rintro ⟨negative, rfl⟩
    exact Bool.noConfusion (realOfRatio_isFinite hx)

theorem not_isInfinite_of_ofInt {n : Int} (h : Cell.ofInt n = .ok c) : c.isInfinite = false := by
  rw [Cell.ofInt] at h
  split at h
  · obtain rfl := Except.ok.inj h
    rfl
  · cases h

theorem not_isInfinite_of_scaled {v : ScaledNumber} (h : Cell.of (.scaled v) = .ok c) :
    c.isInfinite = false := by
  cases v with
  | notNumber negative signaling payload =>
    cases signaling with
    | false =>
      obtain rfl : Cell.absent = c := Except.ok.inj h
      rfl
    | true => cases h
  | _ =>
    simp only [Cell.of, Except.ok.injEq] at h
    subst h
    rfl

/-- **A cell is infinite exactly if it was made of an infinity.** -/
theorem isInfinite_iff (h : Cell.of d = .ok c) : c.isInfinite = true ↔ d.InfiniteReal := by
  have hreal : ∀ x, (ofReal x).isInfinite = true ↔ ∃ n, Datum.real x = .real (.infinite n) := by
    intro x
    simp only [isInfinite_ofReal, Datum.real.injEq]
  -- whatever is not decoded as a real number neither is an infinity nor becomes one
  have hother : c.isInfinite = false → (∀ x, d.unstored ≠ .real x) →
      (c.isInfinite = true ↔ d.InfiniteReal) := by
    intro hc hd
    exact iff_of_false (ne_true_of_eq_false hc) (fun ⟨n, hn⟩ => hd _ hn)
  cases d with
  | real x =>
    rw [Cell.of] at h
    obtain rfl := Except.ok.inj h
    exact hreal x
  | stored v =>
    cases v with
    | real x =>
      rw [Cell.of] at h
      obtain rfl := Except.ok.inj h
      exact hreal x
    | integer n =>
      rw [Cell.of] at h
      exact hother (not_isInfinite_of_ofInt h) (fun _ hx => nomatch hx)
    | boolean b =>
      simp only [Cell.of, Except.ok.injEq] at h
      subst h
      exact hother rfl (fun _ hx => nomatch hx)
  | integer n =>
    rw [Cell.of] at h
    exact hother (not_isInfinite_of_ofInt h) (fun _ hx => nomatch hx)
  | ratio n k => exact hother (not_isInfinite_of_ratio h) (fun _ hx => nomatch hx)
  | scaled v => exact hother (not_isInfinite_of_scaled h) (fun _ hx => nomatch hx)
  | _ =>
    simp only [Cell.of, Except.ok.injEq] at h
    subst h
    exact hother rfl (fun _ hx => nomatch hx)

/-- **The number of a cell is finite, or there is none**, exactly if the cell is
not infinite. -/
theorem number?_finite_iff :
    (∀ x, c.number? = some x → x.isFinite = true) ↔ c.isInfinite = false := by
  constructor
  · intro h
    rcases hc : c.isInfinite with - | -
    · rfl
    · rcases cases_of_isInfinite hc with ⟨hx, -⟩ | ⟨hx, -⟩
      · exact (h _ hx).symm
      · exact (h _ hx).symm
  · intro h x hx
    exact isFinite_of_number? h hx

end Cell

/-! ### Statistics -/

namespace Binary64

/-- Only what is not finite is not above the negative infinity. -/
theorem isFinite_of_not_less_negative {x : Binary64} (h : less (.infinite true) x = false) :
    x.isFinite = false := by
  cases x with
  | finite n u hu => cases h
  | _ => rfl

/-- Only what is not finite is not below the positive infinity. -/
theorem isFinite_of_not_less_positive {x : Binary64} (h : less x (.infinite false) = false) :
    x.isFinite = false := by
  cases x with
  | finite n u hu => cases h
  | _ => rfl

end Binary64

/-- **The least and the greatest of some numbers are finite exactly if all are.** -/
theorem isFinite_extremes_iff {x : Binary64} {xs : List Binary64}
    (hnumbers : ∀ y ∈ x :: xs, y.isNaN = false) :
    (leastOf x xs).isFinite = true ∧ (greatestOf x xs).isFinite = true ↔
      ∀ y ∈ x :: xs, y.isFinite = true := by
  obtain ⟨hleast, hnoless⟩ := leastOf_spec x xs
  obtain ⟨hgreatest, hnogreater⟩ := greatestOf_spec x xs
  constructor
  · rintro ⟨hlow, hhigh⟩ y hy
    cases y with
    | finite n u hu => rfl
    | nan => exact absurd (hnumbers _ hy) (by decide)
    | infinite negative =>
      -- an infinity below pulls the least number down to it, one above the greatest up
      cases negative with
      | true =>
        rw [Binary64.isFinite_of_not_less_negative (hnoless _ hy)] at hlow
        cases hlow
      | false =>
        rw [Binary64.isFinite_of_not_less_positive (hnogreater _ hy)] at hhigh
        cases hhigh
  · intro h
    exact ⟨h _ hleast, h _ hgreatest⟩

section Statistics

variable {rows : List Row} {column : String}

/-- The extremes of a column are finite exactly if none of its cells is
infinite. -/
theorem columnStats?_finite_iff {stats : ColumnStats} (h : columnStats? rows column = some stats) :
    stats.minimum.isFinite = true ∧ stats.maximum.isFinite = true ↔
      ∀ row ∈ rows, (row.cell stats.column).isInfinite = false := by
  obtain ⟨x, xs, hnumbers, rfl⟩ := exists_of_columnStats? h
  have hnan : ∀ y ∈ x :: xs, y.isNaN = false := by
    intro y hy
    rw [← hnumbers] at hy
    exact isNaN_of_mem_columnNumbers hy
  rw [isFinite_extremes_iff hnan, ← hnumbers]
  simp only [mem_columnNumbers, ← Cell.number?_finite_iff]
  constructor
  · intro hall row hrow y hy
    exact hall y ⟨row, hrow, hy⟩
  · rintro hall y ⟨row, hrow, hy⟩
    exact hall row hrow y hy

end Statistics

/-! ### Answers -/

/-- **Numbers are finite, as far as no infinity is decoded.**  A cell is infinite
exactly if it was made of an infinity; a cell has a finite number or none exactly
if it is not infinite; and the least and the greatest number that an answer
reports of a column are finite exactly if no row of the answer has an infinite
cell in that column. -/
theorem statistics_finite (settings : QuerySettings) (query : Option String)
    (table : Option Table) :
    (∀ d c, Cell.of d = .ok c → (c.isInfinite = true ↔ d.InfiniteReal)) ∧
      (∀ c : Cell, (∀ x, c.number? = some x → x.isFinite = true) ↔ c.isInfinite = false) ∧
      ∀ a, interpret settings query table = .ok a →
        ∀ s, a.summary = some s → ∀ stats ∈ s.numeric,
          (stats.minimum.isFinite = true ∧ stats.maximum.isFinite = true ↔
            ∀ r ∈ a.rows, (r.row.cell stats.column).isInfinite = false) := by
  refine ⟨fun d c => Cell.isInfinite_iff, fun c => Cell.number?_finite_iff, ?_⟩
  intro a ha s hs stats hstats
  obtain ⟨columns, requested, rfl⟩ := summary_of_interpret ha hs
  obtain ⟨column, hcolumn⟩ := exists_columnStats?_of_mem hstats
  rw [columnStats?_finite_iff hcolumn, List.forall_mem_map]

/-- Readings of a meter that went off the scale once. -/
def readings : Table where
  columns := ["reading"]
  rows := [[("reading", .number (.whole 1 (by decide +kernel)))],
    [("reading", .number (.real (.infinite false) rfl))]]
  name := none

/-- An infinity has a cell, whose number is that infinity, and the answer to a
question reports it as the greatest number of its column. -/
theorem infinity_counts :
    Cell.of (.real (.infinite false)) = .ok (.number (.real (.infinite false) rfl)) ∧
      Cell.number? (.number (.real (.infinite false) rfl)) = some (.infinite false) ∧
      ∃ a, interpret {} (some "stats") (some readings) = .ok a ∧
        a.summary.map (fun s => s.numeric.map (·.maximum)) = some [.infinite false] :=
  ⟨rfl, rfl, _, rfl, by decide +kernel⟩

end TableQuery
