/-
TableQuery/Frame.lean

Frames: cells under columns, as a page shows them.
-/
import TableQuery.Rows.Selection

namespace TableQuery

/-- Cells under columns. -/
structure Frame where
  columns : List String
  rows : List (List Cell)

/-- Some rows as a frame: their cells in the order of the columns. -/
def Frame.ofRows (columns : List String) (rows : List PlacedRow) : Frame where
  columns
  rows := rows.map fun r => columns.map r.row.cell

end TableQuery
