/-
TableQuery/Sheet.lean

Sheets of a workbook file, and the grid that a sheet becomes.

Values are read in three steps.  Each cell on its own, as the file gives it
back (`Datum.readBack`).  Then the extent: rows without a value at the end are
dropped, and so are columns that have neither a name nor a value.  Then each
column: its values are brought to one kind (`Column.unify`), and so are the
names of the columns, which are made distinct before (`Sheet.unifyNames`).
-/
import TableQuery.Sheet.Column
import TableQuery.Sheet.Name
import TableQuery.Sheet.Stored
import TableQuery.Table

namespace TableQuery

/-- A sheet as it is put into a file: values under a header. -/
structure Sheet where
  name : String
  header : List Datum
  rows : List (List Datum)

namespace Sheet

/-! ### Putting sheets into a file -/

/-- The values of a sheet, row by row. -/
def values (s : Sheet) : List Datum := s.header ++ s.rows.flatten

/-- Why a sheet cannot be set up. -/
def placementError? (s : Sheet) : Option StorageError :=
  match s.name.toList.find? SheetName.forbidden.contains with
  | some c => some (.nameCharacter c)
  | none => s.values.findSome? Datum.placementError?

/-- Why sheets cannot be put into a file: all of them are set up before the
file is written. -/
def storageError? (sheets : List Sheet) : Option StorageError :=
  (sheets.findSome? placementError?).or
    (sheets.findSome? fun s => s.values.findSome? Datum.writingError?)

/-! ### Extent -/

/-- Whether a cell of the file is blank. -/
def isBlank : Datum → Bool
  | .text s => s = ""
  | _ => false

/-- A list up to its last element that holds something. -/
def trimEnd {α : Type} (blank : α → Bool) (xs : List α) : List α :=
  (xs.reverse.dropWhile blank).reverse

/-- The number of columns, the last of which has a name or a value. -/
def width (rows : List (List Datum)) : Nat :=
  rows.foldl (fun n row => max n (trimEnd isBlank row).length) 0

/-! ### Names of columns -/

/-- The mark that may stand at the very start of a file's text. -/
def dropOrderMark : Datum → Datum
  | .text s =>
    match s.toList with
    | c :: cs => if c.toNat = 0xFEFF then .text (String.ofList cs) else .text s
    | [] => .text s
  | d => d

/-- Names of one kind: numbers are all real if one of them is, and a value
that is no number is no moment among moments. -/
def unifyNames (names : List Datum) : List Datum :=
  let entries? : Option (List Column.Entry) := names.mapM fun
    | .integer n => if Column.Entry.inRange n then some (.whole n (.ofInt n)) else none
    | .real x => some (.real x)
    | _ => none
  let isMoment : Datum → Bool
    | .moment _ => true
    | _ => false
  let isNoNumber : Datum → Bool
    | .real x => x.isNaN
    | _ => false
  match entries? with
  | some entries =>
    if entries.any Column.Entry.isUnsigned && entries.any Column.Entry.isNegative then names
    else if entries.any Column.Entry.isReal then entries.map Column.Entry.asReal
    else names
  | none =>
    if names.all (fun d => isMoment d || isNoNumber d) then
      names.map fun d => if isMoment d then d else .noMoment
    else names

/-- The names of the columns under a first row. -/
def columnNames (first : List Datum) (width : Nat) : List Datum :=
  let first := match first with
    | d :: ds => dropOrderMark d :: ds
    | [] => []
  unifyNames (ColumnName.distinctAll ((List.range width).map fun i =>
    (first[i]?).filter (!isBlank ·)))

/-! ### The grid -/

/-- The grid of the rows that a file gives back, the first of which is the
header. -/
def gridOf (header : List Datum) (rows : List (List Datum)) : Grid :=
  let rows := trimEnd (·.all isBlank) rows
  let width := width (header :: rows)
  let columns := (List.range width).map fun i =>
    Column.unify (rows.map fun row => row.getD i .blank)
  .filled (columnNames header width)
    ((List.range rows.length).map fun i => columns.map fun column => column.getD i .missing)

/-- The grid that a sheet becomes; none if one of its numbers is past the
largest real number. -/
def grid? (s : Sheet) : Option Grid := do
  return gridOf (← s.header.mapM Datum.readBack)
    (← s.rows.mapM fun row => row.mapM Datum.readBack)

end Sheet

end TableQuery
