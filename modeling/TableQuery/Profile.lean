/-
TableQuery/Profile.lean

An overview of a table: its size, its columns, and rows from both ends.
-/
import TableQuery.Frame

namespace TableQuery

/-- An overview of a table. -/
structure Profile where
  columns : List String
  totalRows : Nat
  sample : List PlacedRow

namespace Profile

/-- Rows from both ends, this many from each: none for a size that is not
positive, and all rows if the ends would meet. -/
def sampleOf {α : Type} (size : Int) (rows : List α) : List α :=
  if size ≤ 0 then []
  else if rows.length ≤ 2 * size then rows
  else rows.take size.toNat ++ rows.drop (rows.length - size.toNat)

/-- The number of sample rows from each end that the page shows. -/
def usualSampleSize : Int := 5

/-- The overview of a table, with this many sample rows from each end. -/
def ofTable (t : Table) (sampleSize : Int) : Profile where
  columns := t.columns
  totalRows := t.rows.length
  sample := sampleOf sampleSize t.placedRows

/-- The overview in one line. -/
def summary (p : Profile) : String :=
  "Dataset contains " ++ integerText p.totalRows ++ " rows with columns: " ++
    ", ".intercalate p.columns

/-- The sample as a frame. -/
def frame (p : Profile) : Frame := .ofRows p.columns p.sample

end Profile

end TableQuery
