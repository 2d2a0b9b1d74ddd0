/-
TableQuery/Proofs/Summary.lean

Summaries of rows whose cells are alike.

A distribution counts texts, so it is the same for both.  Statistics are made
of numbers, and alike cells have equal numbers; whether a number is the least
or the greatest is a matter of comparisons, which equal numbers do not change.
A total is the one place where the numbers have to be finite: from then on no
sum on the way can be without a value, although it can be infinite.

Main result: `Summary.alike_ofRows`.
-/
import TableQuery.Proofs.Cell.Reading
import TableQuery.Proofs.Rows.Correspondence
import TableQuery.Summary

namespace TableQuery

/-- Two rows with alike cells in each of the columns, whatever else they hold. -/
def Row.Alike (columns : List String) (r s : Row) : Prop :=
  ∀ column ∈ columns, (r.cell column).Alike (s.cell column)

instance (columns : List String) (r s : Row) : Decidable (r.Alike columns s) :=
  inferInstanceAs (Decidable (∀ column ∈ columns, _))

/-! ### Numbers -/

/-- Equal numbers, the first of which is finite. -/
abbrev EqualFinite (x y : Binary64) : Prop := x.Equal y ∧ x.isFinite = true

variable {x y : Binary64} {xs ys : List Binary64}

theorem leastOf_congr (hx : x.Equal y) (hxs : List.Forall₂ Binary64.Equal xs ys) :
    (leastOf x xs).Equal (leastOf y ys) := by
  refine List.rel_foldl ?_ hx hxs
  intro least least' hleast a b hab
  show (if a.less least then a else least).Equal (if b.less least' then b else least')
  rw [hab.less_congr hleast]
  split
  · exact hab
  · exact hleast

theorem greatestOf_congr (hx : x.Equal y) (hxs : List.Forall₂ Binary64.Equal xs ys) :
    (greatestOf x xs).Equal (greatestOf y ys) := by
  refine List.rel_foldl ?_ hx hxs
  intro greatest greatest' hgreatest a b hab
  show (if greatest.less a then a else greatest).Equal
    (if greatest'.less b then b else greatest')
  rw [hgreatest.less_congr hab]
  split
  · exact hab
  · exact hgreatest

theorem totalOf_congr (hxs : List.Forall₂ EqualFinite xs ys) :
    (totalOf xs).Equal (totalOf ys) := by
  refine List.rel_foldl ?_ (Binary64.equal_zero false false) hxs
  intro total total' htotal a b hab
  exact htotal.add_congr hab.1 hab.2

/-! ### Statistics -/

/-- Statistics of one column that are equal as numbers. -/
structure ColumnStats.Alike (s t : ColumnStats) : Prop where
  column : s.column = t.column
  count : s.count = t.count
  minimum : s.minimum.Equal t.minimum
  maximum : s.maximum.Equal t.maximum
  total : s.total.Equal t.total

variable {columns : List String} {rows rows' : List Row}

theorem columnNumbers_alike (h : List.Forall₂ (Row.Alike columns) rows rows') {column : String}
    (hcolumn : column ∈ columns) :
    List.Forall₂ EqualFinite (columnNumbers rows column) (columnNumbers rows' column) := by
  refine List.rel_filterMap ?_ h
  intro r s hrow
  have hcell := hrow column hcolumn
  have hfinite : ∀ x, (r.cell column).number? = some x → x.isFinite = true :=
    fun x => Cell.isFinite_of_number? hcell.left
  have hnumber := hcell.number?
  show Option.Rel EqualFinite (r.cell column).number? (s.cell column).number?
  generalize (r.cell column).number? = x? at hfinite hnumber ⊢
  generalize (s.cell column).number? = y? at hnumber ⊢
  cases hnumber with
  | none => exact .none
  | some hequal => exact .some ⟨hequal, hfinite _ rfl⟩

theorem columnStats?_alike (h : List.Forall₂ (Row.Alike columns) rows rows') {column : String}
    (hcolumn : column ∈ columns) :
    Option.Rel ColumnStats.Alike (columnStats? rows column) (columnStats? rows' column) := by
  have hnumbers := columnNumbers_alike h hcolumn
  rw [columnStats?, columnStats?]
  generalize columnNumbers rows column = xs at hnumbers ⊢
  generalize columnNumbers rows' column = ys at hnumbers ⊢
  rcases hnumbers with - | ⟨hx, hxs⟩
  · exact .none
  · have hequal := hxs.imp fun _ _ hpair => hpair.1
    exact .some
      { column := rfl
        count := congrArg (· + 1) hxs.length_eq
        minimum := leastOf_congr hx.1 hequal
        maximum := greatestOf_congr hx.1 hequal
        total := totalOf_congr (.cons hx hxs) }

/-! ### Distributions -/

theorem map_plainText_eq (h : List.Forall₂ (Row.Alike columns) rows rows') {column : String}
    (hcolumn : column ∈ columns) :
    (rows.map fun row => (row.cell column).plainText)
      = rows'.map fun row => (row.cell column).plainText := by
  induction h with
  | nil => rfl
  | cons hrow _ ih => rw [List.map_cons, List.map_cons, (hrow column hcolumn).plainText, ih]

theorem distribution?_eq (limits : Limits) (h : List.Forall₂ (Row.Alike columns) rows rows')
    {column : String} (hcolumn : column ∈ columns) :
    distribution? limits rows column = distribution? limits rows' column := by
  rw [distribution?, distribution?, map_plainText_eq h hcolumn, h.length_eq]

/-! ### Summaries -/

/-- Summaries with the same distributions and with statistics of the same
columns that are equal as numbers. -/
structure Summary.Alike (s t : Summary) : Prop where
  isEmpty : s.isEmpty = t.isEmpty
  totalRows : s.totalRows = t.totalRows
  categorical : s.categorical = t.categorical
  numeric : List.Forall₂ ColumnStats.Alike s.numeric t.numeric

/-- **Rows with alike cells have alike summaries.** -/
theorem Summary.alike_ofRows (limits : Limits) (requested : Bool)
    (h : List.Forall₂ (Row.Alike columns) rows rows') :
    (ofRows limits columns requested rows).Alike (ofRows limits columns requested rows') := by
  -- the columns are the same on both sides
  have hcolumns : List.Forall₂ (fun c d => c = d ∧ c ∈ columns) columns columns :=
    List.forall₂_same.2 fun c hc => ⟨rfl, hc⟩
  rw [ofRows, ofRows, isEmpty_corresponds h, h.length_eq]
  split
  · exact ⟨Eq.refl true, rfl, rfl, .nil⟩
  · refine ⟨Eq.refl false, rfl, ?_, ?_⟩
    · dsimp only
      congr 1
      refine List.filterMap_congr fun column hcolumn => ?_
      rw [distribution?_eq limits h hcolumn]
    · refine List.rel_filterMap ?_ hcolumns
      rintro c d ⟨rfl, hc⟩
      exact columnStats?_alike h hc

end TableQuery
