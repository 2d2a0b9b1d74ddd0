/-
TableQuery/Shelf.lean

The shelf: the loaded workbooks and the table in use.

Design.  Workbooks stand in the order in which their names first came; loading
a name again replaces its workbook in place.  The selection holds the file,
the sheet and the table itself, so that it can be used without a search.
Every action states its steps in order (`ShelfAction`), so what an action
changes before it fails would stay changed.

A loaded workbook is selected at once, on its first sheet.  Removing the
selected file selects the first that remains; removing another leaves the
selection alone.
-/
import TableQuery.Workbook

namespace TableQuery

open Text

/-- The table in use, with the names of its file and its sheet. -/
structure Selection where
  file : String
  sheet : String
  table : Table

/-- The loaded workbooks and the table in use, if there is one. -/
structure Shelf where
  workbooks : List (String × Workbook) := []
  selection : Option Selection := none

/-- Why an action fails. -/
inductive ShelfError where
  | workbook (error : WorkbookError)
  /-- No workbook of this name is loaded. -/
  | unknownFile (name : String) (available : List String)
  | unknownSheet (error : UnknownSheet)
  | nothingSelected
  deriving DecidableEq

/-- The message for an action that fails. -/
def ShelfError.message : ShelfError → String
  | .workbook error => error.message
  | .unknownFile name available =>
    "File '" ++ name ++ "' not loaded. Available: " ++ quotedList available
  | .unknownSheet error => error.message
  | .nothingSelected => "No file selected"

/-- An action on a shelf, with its result. -/
abbrev ShelfAction (α : Type) := ExceptT ShelfError (StateM Shelf) α

namespace Shelf

/-! ### Views -/

/-- The names of the loaded workbooks, in order. -/
def fileNames (s : Shelf) : List String := namesOf s.workbooks

/-- The file in use. -/
def selectedFile? (s : Shelf) : Option String := s.selection.map (·.file)

/-- The sheet in use. -/
def selectedSheet? (s : Shelf) : Option String := s.selection.map (·.sheet)

/-- The table in use. -/
def activeTable? (s : Shelf) : Option Table := s.selection.map (·.table)

/-- The sheets of the file in use. -/
def sheetNames (s : Shelf) : List String :=
  match s.selection with
  | none => []
  | some selection =>
    match getNamed? selection.file s.workbooks with
    | some workbook => workbook.sheetNames
    | none => []

/-! ### Actions -/

/-- The loaded workbook of a name. -/
def find (name : String) : ShelfAction Workbook := do
  let s ← get
  match getNamed? name s.workbooks with
  | some workbook => return workbook
  | none => throw (.unknownFile name s.fileNames)

/-- Selects a sheet of a workbook. -/
def select (workbook : Workbook) (sheet : String) : ShelfAction Unit := do
  match workbook.table sheet with
  | .ok table => modify fun s => { s with selection := some ⟨workbook.name, sheet, table⟩ }
  | .error e => throw (.unknownSheet e)

/-- Loads a workbook and selects its first sheet. -/
def add (name : String) (content : FileContent) : ShelfAction Workbook := do
  match Workbook.load name content with
  | .error e => throw (.workbook e)
  | .ok workbook =>
    modify fun s => { s with workbooks := setNamed name workbook s.workbooks }
    select workbook workbook.firstSheet
    return workbook

/-- Selects the first sheet of a file. -/
def selectFile (name : String) : ShelfAction Unit := do
  let workbook ← find name
  select workbook workbook.firstSheet

/-- Selects a sheet of the file in use. -/
def selectSheet (sheet : String) : ShelfAction Unit := do
  match (← get).selection with
  | none => throw .nothingSelected
  | some selection =>
    let workbook ← find selection.file
    select workbook sheet

/-- Removes a file. -/
def remove (name : String) : ShelfAction Unit := do
  let _ ← find name
  modify fun s => { s with workbooks := eraseNamed name s.workbooks }
  let s ← get
  if s.selectedFile? = some name then
    match s.workbooks with
    | (_, workbook) :: _ => select workbook workbook.firstSheet
    | [] => modify fun s => { s with selection := none }

end Shelf

end TableQuery
