/-
TableQuery/Proofs/Table.lean

What the table of a grid holds.

A row is built from its values one by one, each set under the name of its
column.  Setting a name leaves the others alone, so a value that was set stays
for as long as its name does not come again (`Row.foldlM_setCell`).  Names are
the texts of the header, and there lies the one condition: headers that differ
may have the same text, as the number 1 and the text "1" do.  A row then keeps
one cell for both columns, and what stood in the first of them is gone
(`ofGrid_twoOnes`).

Main result: `Table.ofGrid_holds`.
-/
import Mathlib.Data.List.Forall2
import TableQuery.Proofs.Named
import TableQuery.Table

namespace TableQuery

/-! ### Values -/

/-- A value becomes a cell. -/
def Datum.BecomesCell (d : Datum) : Prop := ∃ c, Cell.of d = .ok c

instance : DecidablePred Datum.BecomesCell := fun d =>
  match h : Cell.of d with
  | .ok c => .isTrue ⟨c, h⟩
  | .error _ => .isFalse fun ⟨_, hc⟩ => nomatch h.symm.trans hc

/-! ### Rows -/

namespace Row

/-- Sets the cell of a named value. -/
def setCell (row : Row) (field : String × Datum) : Except CellError Row := do
  return setNamed field.1 (← Cell.of field.2) row

theorem ofFields_eq (fields : List (String × Datum)) :
    ofFields fields = fields.foldlM setCell [] := rfl

theorem setCell_of_ok {row : Row} {field : String × Datum} {c : Cell}
    (h : Cell.of field.2 = .ok c) : row.setCell field = .ok (setNamed field.1 c row) := by
  rw [setCell, h]
  rfl

@[simp] theorem cell_setNamed_self (row : Row) (name : String) (c : Cell) :
    cell (setNamed name c row) name = c := by
  rw [cell, getNamed?_setNamed_self, Option.getD_some]

theorem cell_setNamed_of_ne (row : Row) {name other : String} (h : other ≠ name) (c : Cell) :
    cell (setNamed name c row) other = row.cell other := by
  rw [cell, cell, getNamed?_setNamed_of_ne h]

/-- Values under distinct names that all become cells are set, each under its
name, and every other name is left alone. -/
theorem foldlM_setCell {fields : List (String × Datum)} (hnames : (namesOf fields).Nodup)
    (hcells : ∀ field ∈ fields, field.2.BecomesCell) (row : Row) :
    ∃ result, fields.foldlM setCell row = .ok result ∧
      (∀ name ∉ namesOf fields, result.cell name = row.cell name) ∧
      ∀ field ∈ fields, Cell.of field.2 = .ok (result.cell field.1) := by
  induction fields generalizing row with
  | nil => exact ⟨row, rfl, fun _ _ => rfl, by simp⟩
  | cons field rest ih =>
    obtain ⟨hfresh, hrest⟩ := List.nodup_cons.1 hnames
    obtain ⟨⟨c, hc⟩, hcells⟩ := List.forall_mem_cons.1 hcells
    obtain ⟨result, hresult, hothers, hset⟩ := ih hrest hcells (setNamed field.1 c row)
    refine ⟨result, ?_, ?_, ?_⟩
    · rw [List.foldlM_cons, setCell_of_ok hc]
      exact hresult
    · intro name hname
      rw [namesOf_cons, List.mem_cons, not_or] at hname
      rw [hothers name hname.2, cell_setNamed_of_ne row hname.1]
    · refine List.forall_mem_cons.2 ⟨?_, hset⟩
      -- the first name does not come again, so the rest leaves its cell alone
      rw [hothers field.1 hfresh, cell_setNamed_self, hc]

end Row

/-! ### Tables -/

/-- A row holds the values of a grid's row in their common form, each under its
column. -/
def Row.Holds (row : Row) (columns : List String) (values : List Datum) : Prop :=
  List.Forall₂ (fun column value => Cell.of value.unstored = .ok (row.cell column)) columns values

/-- A table holds a grid: a column for each header, and in each row the cell of
each value. -/
structure Table.Holds (t : Table) (grid : Grid) : Prop where
  columns : t.columns = grid.header.map (·.plainText)
  rows : List.Forall₂ (fun row values => row.Holds t.columns values) t.rows grid.rows

/-- Reading every element, each of which can be read. -/
theorem mapM_forall₂ {ε α β : Type} {f : α → Except ε β} {p : β → α → Prop} {xs : List α}
    (h : ∀ x ∈ xs, ∃ y, f x = .ok y ∧ p y x) :
    ∃ ys, xs.mapM f = .ok ys ∧ List.Forall₂ p ys xs := by
  induction xs with
  | nil => exact ⟨[], rfl, .nil⟩
  | cons x rest ih =>
    obtain ⟨⟨y, hy, hp⟩, hrest⟩ := List.forall_mem_cons.1 h
    obtain ⟨ys, hys, hall⟩ := ih hrest
    refine ⟨y :: ys, ?_, .cons hp hall⟩
    rw [List.mapM_cons, hy, hys]
    rfl

/-- A row of values that all become cells is held under distinct names. -/
theorem Row.ofFields_zip_holds {columns : List String} {values : List Datum}
    (hnames : columns.Nodup) (hlength : columns.length = values.length)
    (hcells : ∀ value ∈ values, value.unstored.BecomesCell) :
    ∃ row, Row.ofFields (latestNamed (columns.zip (values.map (·.unstored)))) = .ok row ∧
      row.Holds columns values := by
  have hwidth : columns.length = (values.map (·.unstored)).length := by
    rw [List.length_map, hlength]
  have hzip : namesOf (columns.zip (values.map (·.unstored))) = columns :=
    List.map_fst_zip (Nat.le_of_eq hwidth)
  have hfields : ∀ field ∈ columns.zip (values.map (·.unstored)), field.2.BecomesCell := by
    intro field hfield
    obtain ⟨value, hvalue, hof⟩ := List.mem_map.1 (List.of_mem_zip hfield).2
    rw [← hof]
    exact hcells value hvalue
  -- no name is repeated, so no value is overwritten and each stands under its own name
  have hdistinct : (namesOf (columns.zip (values.map (·.unstored)))).Nodup := by rwa [hzip]
  obtain ⟨row, hrow, -, hset⟩ := foldlM_setCell hdistinct hfields []
  rw [latestNamed_of_nodup hdistinct]
  refine ⟨row, (ofFields_eq _).trans hrow, List.forall₂_iff_zip.2 ⟨hlength, ?_⟩⟩
  intro column value hmem
  refine hset (column, value.unstored) ?_
  rw [List.zip_map_right]
  exact List.mem_map_of_mem hmem

/-- **Loading a grid loses no data**, as long as the texts of its header are
distinct: there is a table, its columns are distinct and one for each header,
and each cell is that of the value at its row and header. -/
theorem Table.ofGrid_holds {grid : Grid} (name : Option String)
    (hheader : (grid.header.map (·.plainText)).Nodup)
    (hcells : ∀ values ∈ grid.rows, ∀ value ∈ values, value.unstored.BecomesCell) :
    ∃ t, Table.ofGrid grid name = .ok t ∧ t.columns.Nodup ∧ t.Holds grid := by
  have hrows : ∀ values ∈ grid.rows,
      ∃ row, Row.ofFields (latestNamed
          ((grid.header.map (·.plainText)).zip (values.map (·.unstored)))) = .ok row ∧
        row.Holds (grid.header.map (·.plainText)) values := by
    intro values hvalues
    refine Row.ofFields_zip_holds hheader ?_ (hcells values hvalues)
    rw [List.length_map, grid.width_eq values hvalues]
  obtain ⟨rows, hmap, hall⟩ := mapM_forall₂ hrows
  refine ⟨⟨grid.header.map (·.plainText), rows, name⟩, ?_, hheader, rfl, hall⟩
  rw [Table.ofGrid, hmap]
  rfl

/-- A part and its lengths, under headers of three kinds. -/
def datedLengths : Grid where
  header := [.text "part", .integer 2024, .missing]
  rows := [[.text "bolt", .integer 10, .missing], [.integer 7, .real (.zero false), .text ""]]
  width_eq := by decide

theorem ofGrid_holds_datedLengths :
    (datedLengths.header.map (·.plainText)).Nodup ∧
      (∀ values ∈ datedLengths.rows, ∀ value ∈ values, value.unstored.BecomesCell) ∧
      ∃ t, Table.ofGrid datedLengths none = .ok t ∧ t.columns.Nodup ∧ t.Holds datedLengths := by
  have hheader : (datedLengths.header.map (·.plainText)).Nodup := by decide +kernel
  have hcells : ∀ values ∈ datedLengths.rows, ∀ value ∈ values, value.unstored.BecomesCell := by
    decide +kernel
  exact ⟨hheader, hcells, Table.ofGrid_holds none hheader hcells⟩

/-- Without columns there are still rows. -/
example : Table.ofGrid (.filled [] [[], []]) none = .ok ⟨[], [[], []], none⟩ := rfl

/-- Two headers that differ and have the same text. -/
def twoOnes : Grid where
  header := [.integer 1, .text "1"]
  rows := [[.text "a", .text "b"]]
  width_eq := by decide

/-- Headers with the same text lose data.  The headers differ and every value
becomes a cell, yet the columns of the table are not distinct, and one cell
cannot be both "a" and "b". -/
theorem ofGrid_twoOnes :
    twoOnes.header.Nodup ∧
      (∀ values ∈ twoOnes.rows, ∀ value ∈ values, value.unstored.BecomesCell) ∧
      ∃ t, Table.ofGrid twoOnes none = .ok t ∧ ¬ t.columns.Nodup ∧ ¬ t.Holds twoOnes := by
  refine ⟨by simp [twoOnes], by decide +kernel,
    ⟨["1", "1"], [[("1", .text "b")]], none⟩, by rfl, by decide, fun hholds => ?_⟩
  obtain ⟨hrow, -⟩ := List.forall₂_cons.1 hholds.rows
  obtain ⟨ha, -⟩ := List.forall₂_cons.1 hrow
  have htext : "a" = "b" := Cell.text.inj (Except.ok.inj ha)
  exact absurd htext (by decide)

end TableQuery
