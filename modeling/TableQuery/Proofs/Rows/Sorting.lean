/-
TableQuery/Proofs/Rows/Sorting.lean

Sorting rows by a column.

A sort arranges the rows by the keys of their cells, and whatever the cells are
it changes the order of the rows only (`SortOrder.apply_perm`) and leaves no two
neighbours out of order (`SortOrder.apply_neighbours`).  More holds of a column
of one kind, all of whose cells are empty or numbers, or none of which is a
number.  Comparison is consistent there, in both directions, so that a sort is
what it is meant to be, the one stable arrangement of the rows
(`SortOrder.apply_stablySorted`); and as an arrangement of some of the rows is a
part of the arrangement of all, it does not matter whether rows are selected
before they are sorted or after (`SortOrder.apply_select_comm`).

What holds of a column of one kind holds of every stable sort.  What holds
whatever the cells are holds of the sort of Rows/Arrangement.lean, which says for
which lists that is the sort of the program.
-/
import TableQuery.Proofs.Cell.Consistency
import TableQuery.Proofs.Rows.Stability

namespace TableQuery

/-- The key of a row in a sort. -/
def SortOrder.keyOf (s : SortOrder) (r : PlacedRow) : Cell.Key := (r.row.cell s.column).key

/-- Sorting pairs each row with its key and arranges the pairs by key. -/
theorem SortOrder.apply_some (s : SortOrder) (rows : List PlacedRow) :
    apply (some s) rows
      = (arrange (fun a b : Cell.Key × PlacedRow => s.before a.1 b.1)
          (rows.map fun r => (s.keyOf r, r))).map Prod.snd := rfl

namespace SortOrder

variable (s : SortOrder) {rows : List PlacedRow}

/-- Whether a row comes strictly before another in a sort. -/
def beforeRow (p q : PlacedRow) : Bool := s.before (s.keyOf p) (s.keyOf q)

theorem oneWay_beforeRow : OneWay s.beforeRow := fun p q => s.oneWay_before (s.keyOf p) (s.keyOf q)

/-- A sort arranges the rows. -/
theorem apply_eq_arrange (rows : List PlacedRow) :
    apply (some s) rows = arrange s.beforeRow rows := by
  rw [apply_some, arrange_map, List.map_map]
  exact List.map_id _

/-- Sorting changes the order of the rows only. -/
theorem apply_perm (s : Option SortOrder) (rows : List PlacedRow) : (apply s rows).Perm rows := by
  cases s with
  | none => exact .refl rows
  | some s =>
    rw [apply_eq_arrange]
    exact arrange_perm _ _

/-- A sort settles the rows. -/
theorem settled_apply_rows (rows : List PlacedRow) :
    Settled s.beforeRow (apply (some s) rows) := by
  rw [apply_eq_arrange]
  exact settled_arrange s.oneWay_beforeRow rows

/-- **A sort leaves no two neighbours out of order**, whatever the cells of the
column are: it holds the same rows, and none of them comes strictly before the
one in front of it. -/
theorem apply_neighbours (rows : List PlacedRow) :
    (apply (some s) rows).Perm rows ∧
      (apply (some s) rows).IsChain fun p q =>
        Cell.order (q.row.cell s.column) (p.row.cell s.column)
          ≠ if s.descending then .gt else .lt := by
  refine ⟨apply_perm (some s) rows, (s.settled_apply_rows rows).imp ?_⟩
  intro p q hqp
  exact decide_eq_false_iff_not.1 hqp

/-! ### The order of a sort -/

/-- A cell may stand in front of another. -/
def InOrder (c d : Cell) : Prop := if s.descending then d.AtMost c else c.AtMost d

/-- Whether the cells of two rows compare equal. -/
def tied (p q : PlacedRow) : Bool :=
  Cell.order (p.row.cell s.column) (q.row.cell s.column) = .eq

/-- The cells of a column. -/
def cellsOf (rows : List PlacedRow) : List Cell := rows.map fun r => r.row.cell s.column

theorem cell_mem_cellsOf {r : PlacedRow} (h : r ∈ rows) : r.row.cell s.column ∈ s.cellsOf rows :=
  List.mem_map_of_mem h

/-- A cell does not come before one that may stand in front of it. -/
theorem before_key_eq_false_iff (c d : Cell) :
    s.before d.key c.key = false ↔
      if s.descending then (Cell.order d c).isLE = true else (Cell.order c d).isLE = true := by
  have hswap := Cell.order_swap c d
  rw [before, decide_eq_false_iff_not]
  change ¬ Cell.order d c = _ ↔ _
  rw [hswap]
  generalize Cell.order d c = o
  cases s.descending <;> cases o <;> decide

/-- A row does not come before one that may stand in front of it. -/
theorem beforeRow_eq_false_iff (p q : PlacedRow) :
    s.beforeRow q p = false ↔
      if s.descending then (Cell.order (q.row.cell s.column) (p.row.cell s.column)).isLE = true
      else (Cell.order (p.row.cell s.column) (q.row.cell s.column)).isLE = true :=
  s.before_key_eq_false_iff _ _

theorem level_beforeRow : level s.beforeRow = s.tied := by
  funext p q
  have hpq := Cell.order_swap (p.row.cell s.column) (q.row.cell s.column)
  rw [Bool.eq_iff_iff, level_iff, beforeRow_eq_false_iff, beforeRow_eq_false_iff, tied, hpq]
  generalize Cell.order (q.row.cell s.column) (p.row.cell s.column) = o
  cases s.descending <;> cases o <;> decide

variable {s}

theorem consistentOn_beforeRow (h : Cell.TransitiveAmong (s.cellsOf rows)) :
    ConsistentOn s.beforeRow rows where
  oneWay p q := s.oneWay_beforeRow p.1 q.1
  trans p q r hqp hrq := by
    have hp := s.cell_mem_cellsOf p.2
    have hq := s.cell_mem_cellsOf q.2
    have hr := s.cell_mem_cellsOf r.2
    rw [beforeRow_eq_false_iff] at hqp hrq ⊢
    by_cases hdescending : s.descending = true
    · -- the same law, read from right to left
      rw [if_pos hdescending] at hqp hrq ⊢
      exact h _ hr _ hq _ hp hrq hqp
    · rw [if_neg hdescending] at hqp hrq ⊢
      exact h _ hp _ hq _ hr hqp hrq

/-! ### Columns of one kind -/

/-- Some rows, sorted: the same rows in order, those with equal cells as they
stood. -/
structure StablySorted (s : SortOrder) (rows sorted : List PlacedRow) : Prop where
  perm : sorted.Perm rows
  ordered : sorted.Pairwise fun p q => s.InOrder (p.row.cell s.column) (q.row.cell s.column)
  stable : ∀ r ∈ rows, sorted.filter (s.tied r) = rows.filter (s.tied r)

/-- On a column of one kind, to be sorted is to be arranged. -/
theorem stablySorted_iff (h : Cell.Uniform (s.cellsOf rows)) {sorted : List PlacedRow} :
    s.StablySorted rows sorted ↔ StablyArranged s.beforeRow rows sorted := by
  -- on a uniform column being in order is the same as not having to change places
  have hpair : sorted.Perm rows →
      (sorted.Pairwise (fun p q => s.InOrder (p.row.cell s.column) (q.row.cell s.column)) ↔
        sorted.Pairwise fun p q => s.beforeRow q p = false) := by
    intro hperm
    refine List.Pairwise.iff_of_mem fun {p q} hp hq => ?_
    have hp := s.cell_mem_cellsOf (hperm.mem_iff.1 hp)
    have hq := s.cell_mem_cellsOf (hperm.mem_iff.1 hq)
    rw [beforeRow_eq_false_iff, InOrder]
    split
    · exact (h.isLE_order_iff hq hp).symm
    · exact (h.isLE_order_iff hp hq).symm
  constructor
  · rintro ⟨hperm, hordered, hstable⟩
    exact ⟨hperm, (hpair hperm).1 hordered, by rwa [level_beforeRow]⟩
  · rintro ⟨hperm, hsorted, hstable⟩
    exact ⟨hperm, (hpair hperm).2 hsorted, by rwa [level_beforeRow] at hstable⟩

/-- **A sort by a column of one kind is the stable arrangement** of the rows in
its direction, of which there is only one. -/
theorem apply_stablySorted (h : Cell.Uniform (s.cellsOf rows)) :
    s.StablySorted rows (apply (some s) rows) ∧
      ∀ sorted, s.StablySorted rows sorted → sorted = apply (some s) rows := by
  have harranged := stablyArranged_arrange (consistentOn_beforeRow h.transitiveAmong)
  rw [apply_eq_arrange]
  refine ⟨(stablySorted_iff h).2 harranged, fun sorted hsorted => ?_⟩
  exact ((stablySorted_iff h).1 hsorted).unique s.oneWay_beforeRow harranged

/-- Lengths, as texts and as numbers, two of them blank. -/
def lengths : List PlacedRow :=
  [⟨0, [("length", .text "10")]⟩, ⟨1, [("length", .number (.whole 9 (by decide +kernel)))]⟩,
    ⟨2, [("width", .text "9a")]⟩, ⟨3, [("length", .text " 9.0 ")]⟩,
    ⟨4, [("length", .text "")]⟩, ⟨5, [("length", .text "1e1")]⟩]

/-- The order that sorts them, the longest first. -/
def byLength : SortOrder := ⟨"length", true⟩

theorem apply_stablySorted_lengths :
    Cell.Uniform (byLength.cellsOf lengths) ∧
      (byLength.StablySorted lengths (apply (some byLength) lengths) ∧
        ∀ sorted, byLength.StablySorted lengths sorted → sorted = apply (some byLength) lengths) ∧
      (apply (some byLength) lengths).map (·.position) = [0, 5, 1, 3, 2, 4] := by
  have huniform : Cell.Uniform (byLength.cellsOf lengths) := by decide +kernel
  exact ⟨huniform, apply_stablySorted huniform, by decide +kernel⟩

/-- **By a column of one kind, rows can be sorted before or after some of them
are selected.** -/
theorem apply_filter (h : Cell.Uniform (s.cellsOf rows)) (test : PlacedRow → Bool) :
    apply (some s) (rows.filter test) = (apply (some s) rows).filter test := by
  rw [apply_eq_arrange, apply_eq_arrange]
  exact arrange_filter s.oneWay_beforeRow (consistentOn_beforeRow h.transitiveAmong) test

/-- **Selecting and sorting commute** on a column of one kind, whether the rows
are selected by a filter or by a search. -/
theorem apply_select_comm (h : Cell.Uniform (s.cellsOf rows)) (columns : List String) :
    (∀ f, apply (some s) (RowFilter.apply f columns rows)
        = RowFilter.apply f columns (apply (some s) rows)) ∧
      ∀ term, apply (some s) (searchRows columns term rows)
        = searchRows columns term (apply (some s) rows) := by
  refine ⟨fun f => ?_, fun term => apply_filter h _⟩
  cases f with
  | none => rfl
  | some f => exact apply_filter h _

theorem apply_select_comm_lengths :
    Cell.Uniform (byLength.cellsOf lengths) ∧
      (∀ f, apply (some byLength) (RowFilter.apply f ["length", "width"] lengths)
        = RowFilter.apply f ["length", "width"] (apply (some byLength) lengths)) ∧
      ∀ term, apply (some byLength) (searchRows ["length", "width"] term lengths)
        = searchRows ["length", "width"] term (apply (some byLength) lengths) := by
  have huniform : Cell.Uniform (byLength.cellsOf lengths) := by decide +kernel
  exact ⟨huniform, apply_select_comm huniform ["length", "width"]⟩

end SortOrder

end TableQuery
