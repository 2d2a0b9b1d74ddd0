/-
TableQuery/Table.lean

Rows and tables.

Design.  A row is a list of named cells in the order in which the names first
came; setting a name that is there replaces its cell and keeps its place.  A
table has its own list of columns, because a row may lack one, may hold names
that are no column, and because a header may repeat a name.  Reading a row
under any name is total: what is not there is absent.

Decoded values come in two forms: as records, which name each value, and as a
grid, whose rows fit its header.
-/
import TableQuery.Cell
import TableQuery.Named

namespace TableQuery

/-! ### Rows -/

/-- Named cells, each name once, in order of first arrival. -/
abbrev Row := List (String × Cell)

namespace Row

/-- The cell of a column; a name that is not there reads as absent. -/
def cell (row : Row) (column : String) : Cell :=
  (getNamed? column row).getD .absent

/-- The row of some named values, the last value of a name counting. -/
def ofFields (fields : List (String × Datum)) : Except CellError Row :=
  fields.foldlM (fun row (name, value) => do return setNamed name (← Cell.of value) row) []

end Row

/-! ### Records -/

/-- Why a value cannot be a key of a record. -/
inductive KeyError where
  /-- Values of this kind can grow. -/
  | unfixed (kind : String)
  /-- The value signals when it is compared. -/
  | signaling
  deriving DecidableEq

/-- The message for a value that cannot be a key. -/
def KeyError.message : KeyError → String
  | .unfixed kind => "unhashable type: '" ++ kind ++ "'"
  | .signaling => "Cannot hash a signaling NaN value"

/-- Values under keys, each key once, in order of first arrival. -/
abbrev Record := List (Datum × Datum)

namespace Record

/-- A value as a key. -/
def key (d : Datum) : Except KeyError Datum :=
  match d with
  | .scaled (.notNumber _ true _) => .error .signaling
  | d => if d.isKey then .ok d else .error (.unfixed d.kindName)

/-- The record of some values, the last value of a key counting. -/
def ofFields (fields : List (Datum × Datum)) : Except KeyError Record :=
  fields.foldlM (fun record (k, v) => do return Datum.setKey (← key k) v record) []

end Record

/-! ### Grids -/

/-- A header that does not fit the widest of its rows. -/
structure WidthError where
  columns : Nat
  cells : Nat
  deriving DecidableEq

/-- The message for a header that does not fit. -/
def WidthError.message (e : WidthError) : String :=
  integerText e.columns ++ " columns passed, passed data had " ++ integerText e.cells ++ " columns"

/-- A decoded sheet: values in rows that are as wide as their header.  A grid
without columns can have rows all the same; they are empty records, and the
table keeps them as empty rows. -/
structure Grid where
  header : List Datum
  rows : List (List Datum)
  width_eq : ∀ row ∈ rows, row.length = header.length

namespace Grid

/-- A row filled up with missing values. -/
def fill (width : Nat) (row : List Datum) : List Datum :=
  row.take width ++ List.replicate (width - row.length) .missing

theorem length_fill (width : Nat) (row : List Datum) : (fill width row).length = width := by
  simp only [fill, List.length_append, List.length_take, List.length_replicate]
  omega

/-- The grid of rows that are filled up to the width of their header. -/
def filled (header : List Datum) (rows : List (List Datum)) : Grid where
  header
  rows := rows.map (fill header.length)
  width_eq := by
    intro row h
    obtain ⟨r, _, rfl⟩ := List.mem_map.1 h
    exact length_fill _ r

/-- The width of the widest row. -/
def widest (rows : List (List Datum)) : Nat :=
  rows.foldl (fun n row => max n row.length) 0

/-- The grid of some rows, the widest of which must fit the header. -/
def of (header : List Datum) (rows : List (List Datum)) : Except WidthError Grid :=
  if rows.isEmpty || widest rows = header.length then .ok (filled header rows)
  else .error ⟨header.length, widest rows⟩

end Grid

/-! ### Tables -/

/-- The rows of a sheet under its columns. -/
structure Table where
  columns : List String
  rows : List Row
  name : Option String

namespace Table

/-- A table without rows. -/
def empty (columns : List String) (name : Option String) : Table :=
  ⟨columns, [], name⟩

/-- The table of some records.  Its columns are the keys of the first record;
other keys stay in their rows. -/
def ofRecords (records : List Record) (name : Option String) : Except CellError Table := do
  let rows ← records.mapM fun record =>
    Row.ofFields (record.map fun (key, value) => (key.plainText, value))
  return ⟨(rows.head?.getD []).map (·.1), rows, name⟩

/-- The table of a decoded sheet.  The header alone decides the columns; of
columns with the same name a row keeps one, with the last value, and the other
values become no cells. -/
def ofGrid (grid : Grid) (name : Option String) : Except CellError Table := do
  let columns := grid.header.map (·.plainText)
  let rows ← grid.rows.mapM fun values =>
    Row.ofFields (latestNamed (columns.zip (values.map (·.unstored))))
  return ⟨columns, rows, name⟩

/-- Whether there is a column and a row. -/
def hasData (t : Table) : Bool :=
  !t.columns.isEmpty && !t.rows.isEmpty

end Table

end TableQuery
