/-
TableQuery/Proofs/Summary/Statistics.lean

Statistics of a column, and the cells that they are about.

The statistics of a column are made of its numbers and of nothing else.  A cell
without a number is absent, a truth value, a blank text or a text that is no
numeral (`Cell.number?_eq_none_iff`), and such a cell is left out; it is never
counted as zero.  So the statistics stay what they are when rows with such
cells come in or go, wherever they stand (`columnStats?_eq_of_differ`), and a
column has statistics exactly if one of its cells has a number.

Main result: `Summary.numeric_ofRows`.
-/
import TableQuery.Proofs.Cell.Reading
import TableQuery.Proofs.Number.Extremes
import TableQuery.Proofs.Text.Blank

namespace TableQuery

/-! ### Cells without a number -/

/-- A cell that has no number. -/
inductive Cell.Numberless : Cell → Prop
  | absent : Numberless .absent
  | boolean (b : Bool) : Numberless (.boolean b)
  | blank {s : String} : ¬ Text.HasWord s → Numberless (.text s)
  | words {s : String} : readNumber? s = none → Numberless (.text s)

theorem readNumber?_of_blank {s : String} (h : ¬ Text.HasWord s) : readNumber? s = none := by
  have hstrip : Text.strip s.toList = [] := by
    rw [Text.strip_eq_nil_iff]
    intro c hc
    by_contra hblank
    exact h ⟨c, hc, Bool.eq_false_iff.2 hblank⟩
  rw [readNumber?, hstrip]
  rfl

theorem Cell.number?_eq_none_iff {c : Cell} : c.number? = none ↔ c.Numberless := by
  constructor
  · intro h
    cases c with
    | text s => exact .words h
    | number a => cases h
    | boolean b => exact .boolean b
    | absent => exact .absent
  · intro h
    cases h with
    | absent => rfl
    | boolean b => rfl
    | blank h => exact readNumber?_of_blank h
    | words h => exact h

/-! ### The numbers of a column -/

/-- Whether a column has a number in a row. -/
def Row.hasNumber (column : String) (row : Row) : Bool := (row.cell column).number?.isSome

section Numbers

variable {rows : List Row} {column : String}

theorem mem_columnNumbers {x : Binary64} :
    x ∈ columnNumbers rows column ↔ ∃ row ∈ rows, (row.cell column).number? = some x :=
  List.mem_filterMap

theorem isNaN_of_mem_columnNumbers {x : Binary64} (h : x ∈ columnNumbers rows column) :
    x.isNaN = false := by
  obtain ⟨row, -, hrow⟩ := mem_columnNumbers.1 h
  exact Cell.isNaN_of_number? hrow

/-- There are as many numbers as rows that have one. -/
theorem length_columnNumbers :
    (columnNumbers rows column).length = rows.countP (Row.hasNumber column) :=
  List.length_filterMap_eq_countP

/-- The statistics of a column are made of all its numbers. -/
theorem exists_of_columnStats? {stats : ColumnStats} (h : columnStats? rows column = some stats) :
    ∃ x xs, columnNumbers rows column = x :: xs ∧
      stats = ⟨column, xs.length + 1, leastOf x xs, greatestOf x xs, totalOf (x :: xs)⟩ := by
  rw [columnStats?] at h
  split at h
  · cases h
  · next x xs hnumbers => exact ⟨x, xs, hnumbers, (Option.some.inj h).symm⟩

theorem column_of_columnStats? {stats : ColumnStats} (h : columnStats? rows column = some stats) :
    stats.column = column := by
  obtain ⟨x, xs, -, rfl⟩ := exists_of_columnStats? h
  rfl

/-- A column has statistics exactly if it has a number in some row. -/
theorem isSome_columnStats? :
    (columnStats? rows column).isSome = rows.any (Row.hasNumber column) := by
  have hany : rows.any (Row.hasNumber column) = true ↔ 0 < (columnNumbers rows column).length := by
    rw [length_columnNumbers, List.countP_pos_iff, List.any_eq_true]
  rw [Bool.eq_iff_iff, hany, columnStats?]
  split
  · next hnil => simp [hnil]
  · next x xs hcons => simp [hcons]

end Numbers

/-! ### What statistics say -/

/-- What the statistics of a column say about rows: they are of as many numbers
as the column has there, at least one, and the bounds are numbers of the column
between which all of its numbers lie. -/
structure ColumnStats.Describes (stats : ColumnStats) (rows : List Row) : Prop where
  count : stats.count = rows.countP (Row.hasNumber stats.column)
  count_pos : 1 ≤ stats.count
  minimum : ∃ row ∈ rows, (row.cell stats.column).number? = some stats.minimum
  maximum : ∃ row ∈ rows, (row.cell stats.column).number? = some stats.maximum
  between : ∀ row ∈ rows, ∀ x, (row.cell stats.column).number? = some x →
    stats.minimum.AtMost x ∧ x.AtMost stats.maximum

theorem columnStats?_describes {rows : List Row} {column : String} {stats : ColumnStats}
    (h : columnStats? rows column = some stats) : stats.Describes rows := by
  obtain ⟨x, xs, hnumbers, rfl⟩ := exists_of_columnStats? h
  obtain ⟨hleast, hnoless⟩ := leastOf_spec x xs
  obtain ⟨hgreatest, hnogreater⟩ := greatestOf_spec x xs
  have hnan : ∀ y ∈ x :: xs, y.isNaN = false := by
    -- cells never hold NaN, so not being greater is being at most
    intro y hy
    rw [← hnumbers] at hy
    exact isNaN_of_mem_columnNumbers hy
  refine ⟨?_, Nat.succ_pos _, ?_, ?_, ?_⟩
  · rw [← length_columnNumbers, hnumbers, List.length_cons]
  · rwa [← mem_columnNumbers, hnumbers]
  · rwa [← mem_columnNumbers, hnumbers]
  · intro row hrow y hy
    have hmem : y ∈ x :: xs := hnumbers ▸ mem_columnNumbers.2 ⟨row, hrow, hy⟩
    rw [Binary64.atMost_iff (hnan _ hleast) (hnan _ hmem),
      Binary64.atMost_iff (hnan _ hmem) (hnan _ hgreatest)]
    exact ⟨hnoless y hmem, hnogreater y hmem⟩

/-! ### Rows that come in or go -/

/-- Rows that differ only in rows without a number in a column: such rows are
inserted or removed, anywhere and any number of them. -/
inductive DifferNumberless (column : String) : List Row → List Row → Prop
  | nil : DifferNumberless column [] []
  | keep (row : Row) {rows rows' : List Row} :
    DifferNumberless column rows rows' → DifferNumberless column (row :: rows) (row :: rows')
  | insert {row : Row} {rows rows' : List Row} :
    (row.cell column).Numberless → DifferNumberless column rows rows' →
      DifferNumberless column rows (row :: rows')
  | remove {row : Row} {rows rows' : List Row} :
    (row.cell column).Numberless → DifferNumberless column rows rows' →
      DifferNumberless column (row :: rows) rows'

section Differ

variable {rows rows' : List Row} {column : String}

theorem columnNumbers_cons_numberless {row : Row} (h : (row.cell column).Numberless) :
    columnNumbers (row :: rows) column = columnNumbers rows column :=
  List.filterMap_cons_none (Cell.number?_eq_none_iff.2 h)

theorem columnNumbers_eq_of_differ (h : DifferNumberless column rows rows') :
    columnNumbers rows column = columnNumbers rows' column := by
  induction h with
  | nil => rfl
  | keep row _ ih =>
    simp only [columnNumbers, List.filterMap_cons] at ih ⊢
    rw [ih]
  | insert hrow _ ih => rw [columnNumbers_cons_numberless hrow, ih]
  | remove hrow _ ih => rw [columnNumbers_cons_numberless hrow, ih]

/-- **Rows without a number in a column do not change its statistics.** -/
theorem columnStats?_eq_of_differ (h : DifferNumberless column rows rows') :
    columnStats? rows column = columnStats? rows' column := by
  rw [columnStats?, columnStats?, columnNumbers_eq_of_differ h]

end Differ

/-! ### Summaries -/

section Summaries

variable {limits : Limits} {columns : List String} {requested : Bool} {rows : List Row}

/-- The statistics in a summary are those of a column of the rows. -/
theorem exists_columnStats?_of_mem {stats : ColumnStats}
    (h : stats ∈ (Summary.ofRows limits columns requested rows).numeric) :
    ∃ column, columnStats? rows column = some stats := by
  rw [Summary.ofRows] at h
  split at h
  · cases h
  · obtain ⟨column, -, hstats⟩ := List.mem_filterMap.1 h
    exact ⟨column, hstats⟩

/-- On request, every column has its statistics if it has any; without rows no
column has. -/
theorem numeric_ofRows_requested :
    (Summary.ofRows limits columns true rows).numeric = columns.filterMap (columnStats? rows) := by
  rcases rows with - | ⟨row, rows⟩
  · exact (List.filterMap_eq_nil_iff.2 fun column _ => rfl).symm
  · rfl

/-- The columns of statistics are the columns that have them. -/
theorem map_column_filterMap_columnStats? :
    (columns.filterMap (columnStats? rows)).map (·.column)
      = columns.filter fun column => rows.any (Row.hasNumber column) := by
  have hcolumn : ∀ column, (columnStats? rows column).map (·.column)
      = Option.guard (fun column => rows.any (Row.hasNumber column)) column := by
    intro column
    rw [Option.guard, ← isSome_columnStats?]
    rcases hstats : columnStats? rows column with - | stats
    · rfl
    · rw [Option.map_some, column_of_columnStats? hstats]
      rfl
  rw [List.map_filterMap, ← List.filterMap_eq_filter]
  exact List.filterMap_congr fun column _ => hcolumn column

/-- The statistics of one column, as often as the column is named. -/
theorem filter_column_filterMap_columnStats? (column : String) :
    (columns.filterMap (columnStats? rows)).filter (·.column = column)
      = columns.filterMap fun other =>
        if other = column then columnStats? rows column else none := by
  rw [List.filter_filterMap]
  refine List.filterMap_congr fun other _ => ?_
  rcases hstats : columnStats? rows other with - | stats
  · split
    · next heq => rw [← heq, hstats, Option.filter_none]
    · exact Option.filter_none _
  · rw [Option.filter_some, column_of_columnStats? hstats]
    split
    · next heq =>
      obtain rfl := of_decide_eq_true heq
      rw [if_pos rfl, hstats]
    · next hne => rw [if_neg (of_decide_eq_false (Bool.eq_false_iff.2 hne))]

end Summaries

/-- **Statistics are exact about the numbers of a column and ignore the rest.**
On request the summary of some rows has statistics for the columns that have a
number in some row, in their order; they count those numbers and give their
bounds; and the statistics of a column stay the same when rows without a number
in that column are inserted or removed. -/
theorem Summary.numeric_ofRows (limits : Limits) (columns : List String) (rows : List Row) :
    (ofRows limits columns true rows).numeric.map (·.column)
        = columns.filter (fun column => rows.any (Row.hasNumber column)) ∧
      (∀ stats ∈ (ofRows limits columns true rows).numeric, stats.Describes rows) ∧
      ∀ column rows', DifferNumberless column rows rows' →
        (ofRows limits columns true rows').numeric.filter (·.column = column)
          = (ofRows limits columns true rows).numeric.filter (·.column = column) := by
  refine ⟨?_, ?_, ?_⟩
  · rw [numeric_ofRows_requested, map_column_filterMap_columnStats?]
  · intro stats hstats
    obtain ⟨column, hcolumn⟩ := exists_columnStats?_of_mem hstats
    exact columnStats?_describes hcolumn
  · intro column rows' hdiffer
    rw [numeric_ofRows_requested, numeric_ofRows_requested, filter_column_filterMap_columnStats?,
      filter_column_filterMap_columnStats?, columnStats?_eq_of_differ hdiffer]

/-- A price list with one price in words. -/
def priceList : List Row :=
  [[("fruit", .text "apple"), ("price", .text " 2.50 ")],
    [("fruit", .text "pear"), ("price", .text "on request")],
    [("fruit", .text "plum"), ("price", .number (.whole 4 (by decide +kernel)))]]

/-- The price in words is gone, and a fruit without a price has come in. -/
def revisedPriceList : List Row :=
  [[("fruit", .text "apple"), ("price", .text " 2.50 ")],
    [("fruit", .text "plum"), ("price", .number (.whole 4 (by decide +kernel)))],
    [("fruit", .text "quince")]]

/-- Both lists have the same statistics of prices, and none of fruits. -/
theorem Summary.numeric_ofRows_priceList :
    (ofRows {} ["fruit", "price"] true priceList).numeric.map (·.column) = ["price"] ∧
      DifferNumberless "price" priceList revisedPriceList ∧
      (ofRows {} ["fruit", "price"] true revisedPriceList).numeric.filter (·.column = "price")
        = (ofRows {} ["fruit", "price"] true priceList).numeric.filter (·.column = "price") := by
  obtain ⟨hcolumns, -, hstays⟩ := numeric_ofRows {} ["fruit", "price"] priceList
  have hdiffer : DifferNumberless "price" priceList revisedPriceList :=
    .keep _ (.remove (.words (by decide +kernel)) (.keep _ (.insert .absent .nil)))
  exact ⟨hcolumns.trans (by decide +kernel), hdiffer, hstays _ _ hdiffer⟩

end TableQuery
