/-
TableQuery/Rows/Selection.lean

Which rows an answer shows, and in which order.

Rows carry their position in the table, so that an answer says not only what
its rows hold but which rows they are.  Selecting keeps the order of the
rows; sorting changes the order only.
-/
import TableQuery.Question.Resolution
import TableQuery.Rows.Arrangement
import TableQuery.Table

namespace TableQuery

open Text

/-- A row at its position in the table. -/
structure PlacedRow where
  position : Nat
  row : Row

/-- The rows of a table with their positions. -/
def Table.placedRows (t : Table) : List PlacedRow :=
  t.rows.mapIdx fun i row => ⟨i, row⟩

/-- The lower-cased text of a row's cell. -/
def Row.lowerText (row : Row) (column : String) : String :=
  lowercase (row.cell column).plainText

/-! ### Selecting -/

/-- Whether some column's text contains a lower-cased term. -/
def Row.mentions (columns : List String) (term : String) (row : Row) : Bool :=
  columns.any fun column => contains (row.lowerText column) term

/-- The rows in which some column's text contains a term, whatever the case
of the letters. -/
def searchRows (columns : List String) (term : String) (rows : List PlacedRow) :
    List PlacedRow :=
  let term := lowercase term
  rows.filter (·.row.mentions columns term)

namespace RowFilter

/-- Whether a filter keeps a row.  A value is compared with whole texts,
whatever the case of the letters; without a value the column must hold
something; a filter that names nothing keeps every row. -/
def keeps (f : RowFilter) (columns : List String) (row : Row) : Bool :=
  match f.value, f.column with
  | some value, some column => row.lowerText column = lowercase value
  | some value, none => columns.any fun column => row.lowerText column = lowercase value
  | none, some column => !(row.cell column).isEmpty
  | none, none => true

/-- The rows that a filter keeps; no filter keeps all. -/
def apply (f : Option RowFilter) (columns : List String) (rows : List PlacedRow) :
    List PlacedRow :=
  match f with
  | none => rows
  | some f => rows.filter (f.keeps columns ·.row)

end RowFilter

/-! ### Sorting -/

namespace SortOrder

/-- Whether a cell of the sort column comes strictly before another. -/
def before (s : SortOrder) (a b : Cell.Key) : Bool :=
  Cell.Key.order a b = if s.descending then .gt else .lt

/-- The rows sorted; no sort leaves them as they are.  The key of each row is
found once. -/
def apply (s : Option SortOrder) (rows : List PlacedRow) : List PlacedRow :=
  match s with
  | none => rows
  | some s =>
    let keyed := rows.map fun r => ((r.row.cell s.column).key, r)
    (arrange (fun a b => s.before a.1 b.1) keyed).map (·.2)

end SortOrder

end TableQuery
