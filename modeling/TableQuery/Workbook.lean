/-
TableQuery/Workbook.lean

Workbooks, and loading them from uploaded files.

Loading has two halves.  Decoding finds the grids of the sheets in a file, or
the reason why it has none (`FileContent.decode`).  Then every grid becomes a
table, in the order of the file (`Workbook.ofGrids`).  A workbook has at least
one sheet, so its first sheet always exists.

Files that are put together from sheets are decoded here.  A file of any other
making is known by what its decoding comes to (`FileContent.other`).

A value that cannot become a cell is not a failure to decode: it is reported
as it is (`WorkbookError.cell`).
-/
import TableQuery.Sheet

namespace TableQuery

open Text

/-! ### Files -/

/-- Why a file holds no workbook. -/
inductive DecodeError where
  | notArchive
  /-- The archive lacks this member. -/
  | missingMember (name : String)
  | noSheets
  /-- A number is past the largest real number. -/
  | infiniteNumber
  /-- Anything else, in the decoder's words. -/
  | other (reason : String)
  deriving DecidableEq

/-- The reason in words. -/
def DecodeError.message : DecodeError → String
  | .notArchive => "File is not a zip file"
  | .missingMember name => "\"There is no item named '" ++ name ++ "' in the archive\""
  | .noSheets => "Sheet name is an empty list"
  | .infiniteNumber => "cannot convert float infinity to integer"
  | .other reason => reason

/-- The grids of the sheets of a file, of which there is one at least, under
distinct names. -/
structure Decoded where
  grids : List (String × Grid)
  grids_ne_nil : grids ≠ []
  distinct : (namesOf grids).Nodup

/-- What is in an uploaded file, as far as loading looks at it. -/
inductive FileContent where
  /-- No archive. -/
  | plain
  /-- An archive of these members, with no sheet in it. -/
  | archive (members : List String)
  /-- A workbook file with these sheets. -/
  | workbook (sheets : List Sheet)
  /-- A file of any other making, by what its decoding comes to. -/
  | other (outcome : Except DecodeError Decoded)

/-- The members that a workbook file must have, in the order of the search. -/
def requiredMembers : List String := ["[Content_Types].xml", "xl/workbook.xml"]

/-- The grid of a sheet under its name. -/
def Sheet.namedGrid? (entry : String × Sheet) : Option (String × Grid) :=
  entry.2.grid?.map fun grid => (entry.1, grid)

/-- The grids of the sheets of a file, under distinct names; of sheets with the
same name the first counts. -/
def FileContent.decode : FileContent → Except DecodeError (List (String × Grid))
  | .plain => .error .notArchive
  | .archive members =>
    match requiredMembers.find? (!members.contains ·) with
    | some name => .error (.missingMember name)
    | none => .error .noSheets
  | .workbook [] => .error .noSheets
  | .workbook sheets =>
    let named := firstNamed ((SheetName.distinctAll (sheets.map (·.name))).zip sheets)
    match named.mapM Sheet.namedGrid? with
    | some grids => .ok grids
    | none => .error .infiniteNumber
  | .other outcome => outcome.map (·.grids)

/-! ### Workbooks -/

/-- A workbook: tables under the names of their sheets, in the order of the
file. -/
structure Workbook where
  name : String
  sheets : List (String × Table)
  sheets_ne_nil : sheets ≠ []

/-- Why a workbook cannot be loaded. -/
inductive WorkbookError where
  /-- The file of this name holds no workbook. -/
  | unreadable (file : String) (reason : DecodeError)
  /-- The workbook of this name has no sheets. -/
  | empty (file : String)
  /-- A value that cannot become a cell. -/
  | cell (reason : CellError)
  deriving DecidableEq

/-- The message for a workbook that cannot be loaded. -/
def WorkbookError.message : WorkbookError → String
  | .unreadable file reason =>
    "Could not read " ++ file ++ " as an Excel workbook: " ++ reason.message
  | .empty file => file ++ " contains no sheets"
  | .cell reason => reason.message

/-- Whether the file is to blame, and not a value in it. -/
def WorkbookError.isOfFile : WorkbookError → Bool
  | .cell _ => false
  | _ => true

/-- A sheet that a workbook does not have. -/
structure UnknownSheet where
  sheet : String
  workbook : String
  available : List String
  deriving DecidableEq

/-- The message for a sheet that a workbook does not have. -/
def UnknownSheet.message (e : UnknownSheet) : String :=
  "Sheet '" ++ e.sheet ++ "' not found in " ++ e.workbook ++ ". Available: " ++
    quotedList e.available

namespace Workbook

/-- The names of the sheets, in order. -/
def sheetNames (w : Workbook) : List String := namesOf w.sheets

/-- The name of the first sheet. -/
def firstSheet (w : Workbook) : String := (w.sheets.head w.sheets_ne_nil).1

/-- The table of a sheet. -/
def table (w : Workbook) (sheet : String) : Except UnknownSheet Table :=
  match getNamed? sheet w.sheets with
  | some t => .ok t
  | none => .error ⟨sheet, w.name, w.sheetNames⟩

/-- The workbook of some grids, each of which becomes a table. -/
def ofGrids (name : String) (grids : List (String × Grid)) : Except WorkbookError Workbook := do
  let tables ← grids.foldlM (fun tables (sheet, grid) => do
    let table ← (Table.ofGrid grid (some sheet)).mapError .cell
    return setNamed sheet table tables) []
  if h : tables = [] then .error (.empty name) else return ⟨name, tables, h⟩

/-- Loads the workbook in a file. -/
def load (name : String) (content : FileContent) : Except WorkbookError Workbook := do
  let grids ← content.decode.mapError (.unreadable name)
  ofGrids name grids

end Workbook

end TableQuery
