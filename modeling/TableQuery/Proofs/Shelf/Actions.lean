/-
TableQuery/Proofs/Shelf/Actions.lean

The actions on a shelf as commands.

A command is an action with its argument, so that a sequence of actions is a
list.  `perform` is the result of a command with the shelf after it, and
`after` is the shelf after a sequence, whether or not its commands succeed.

There is one equation for each command, which says everything that the
command can do.  The two facts behind them are that the first sheet of a
workbook can always be selected (`runOn_select_firstSheet`) and that looking
for a file changes nothing (`runOn_find`).
-/
import TableQuery.Proofs.Action
import TableQuery.Proofs.Workbook
import TableQuery.Shelf

namespace TableQuery

/-- The selection of a workbook that is opened: its first sheet. -/
def Workbook.opening (w : Workbook) : Selection := ⟨w.name, w.firstSheet, w.firstTable⟩

namespace Shelf

variable {name sheet : String} {content : FileContent} {s : Shelf} {w : Workbook}

/-! ### What is in use -/

theorem selectedFile?_of_none (h : s.selection = none) : s.selectedFile? = none := by
  rw [selectedFile?, h, Option.map_none]

section Selected

variable {x : Selection}

theorem selectedFile?_of_some (h : s.selection = some x) : s.selectedFile? = some x.file := by
  rw [selectedFile?, h, Option.map_some]

theorem selectedSheet?_of_some (h : s.selection = some x) : s.selectedSheet? = some x.sheet := by
  rw [selectedSheet?, h, Option.map_some]

theorem activeTable?_of_some (h : s.selection = some x) : s.activeTable? = some x.table := by
  rw [activeTable?, h, Option.map_some]

theorem sheetNames_of_some (h : s.selection = some x)
    (hw : getNamed? x.file s.workbooks = some w) : s.sheetNames = w.sheetNames := by
  simp only [sheetNames, h, hw]

end Selected

/-! ### Commands -/

/-- An action on a shelf with its argument. -/
inductive Command where
  | add (name : String) (content : FileContent)
  | selectFile (name : String)
  | selectSheet (sheet : String)
  | remove (name : String)

/-- The action of a command. -/
def Command.action : Command → ShelfAction Unit
  | .add name content => do let _ ← Shelf.add name content
  | .selectFile name => Shelf.selectFile name
  | .selectSheet sheet => Shelf.selectSheet sheet
  | .remove name => Shelf.remove name

/-- The result of a command and the shelf after it. -/
def perform (s : Shelf) (c : Command) : Except ShelfError Unit × Shelf :=
  runOn c.action s

/-- The shelf after a sequence of commands; a command that fails does not stop
the ones behind it. -/
def after (s : Shelf) (commands : List Command) : Shelf :=
  commands.foldl (fun s c => (s.perform c).2) s

@[simp] theorem after_nil (s : Shelf) : s.after [] = s := rfl

@[simp] theorem after_cons (s : Shelf) (c : Command) (rest : List Command) :
    s.after (c :: rest) = (s.perform c).2.after rest := rfl

theorem after_append (s : Shelf) (first second : List Command) :
    s.after (first ++ second) = (s.after first).after second := List.foldl_append

/-- What every command keeps is kept by every sequence of commands. -/
theorem after_induction {P : Shelf → Prop} (step : ∀ s c, P s → P (s.perform c).2)
    (commands : List Command) (h : P s) : P (s.after commands) := by
  induction commands generalizing s with
  | nil => exact h
  | cons c rest ih =>
    rw [after_cons]
    exact ih (step s c h)

/-! ### The steps of the actions -/

theorem runOn_find (name : String) (s : Shelf) :
    runOn (find name) s
      = match getNamed? name s.workbooks with
        | some w => (.ok w, s)
        | none => (.error (.unknownFile name s.fileNames), s) := by
  rw [find, runOn_bind_ok (runOn_get s)]
  rcases getNamed? name s.workbooks with - | w
  · rfl
  · rfl

theorem runOn_select (w : Workbook) (sheet : String) (s : Shelf) :
    runOn (select w sheet) s
      = match w.table sheet with
        | .ok t => (.ok (), { s with selection := some ⟨w.name, sheet, t⟩ })
        | .error e => (.error (.unknownSheet e), s) := by
  rw [select]
  rcases w.table sheet with e | t
  · rfl
  · rfl

/-- The first sheet of a workbook can always be selected. -/
theorem runOn_select_firstSheet (w : Workbook) (s : Shelf) :
    runOn (select w w.firstSheet) s = (.ok (), { s with selection := some w.opening }) := by
  rw [runOn_select, w.table_firstSheet]
  rfl

/-! ### Adding -/

theorem runOn_add_of_error {e : WorkbookError} (h : Workbook.load name content = .error e)
    (s : Shelf) : runOn (Shelf.add name content) s = (.error (.workbook e), s) := by
  rw [Shelf.add, h]
  exact runOn_throw _ s

theorem runOn_add_of_ok (h : Workbook.load name content = .ok w) (s : Shelf) :
    runOn (Shelf.add name content) s
      = (.ok w, { workbooks := setNamed name w s.workbooks, selection := some w.opening }) := by
  rw [Shelf.add, h]
  show runOn (modify _ >>= fun _ => select w w.firstSheet >>= fun _ => pure w) s = _
  rw [runOn_bind_ok (runOn_modify _ s), runOn_bind_ok (runOn_select_firstSheet w _), runOn_pure]

theorem perform_add_of_error {e : WorkbookError} (h : Workbook.load name content = .error e) :
    s.perform (.add name content) = (.error (.workbook e), s) := by
  rw [perform, Command.action, runOn_bind_error (runOn_add_of_error h s)]

theorem perform_add_of_ok (h : Workbook.load name content = .ok w) :
    s.perform (.add name content)
      = (.ok (), { workbooks := setNamed name w s.workbooks, selection := some w.opening }) := by
  rw [perform, Command.action, runOn_bind_ok (runOn_add_of_ok h s), runOn_pure]

/-! ### Selecting -/

theorem perform_selectFile_of_none (h : getNamed? name s.workbooks = none) :
    s.perform (.selectFile name) = (.error (.unknownFile name s.fileNames), s) := by
  have hfind := runOn_find name s
  rw [h] at hfind
  rw [perform, Command.action, selectFile, runOn_bind_error hfind]

theorem perform_selectFile_of_some (h : getNamed? name s.workbooks = some w) :
    s.perform (.selectFile name) = (.ok (), { s with selection := some w.opening }) := by
  have hfind := runOn_find name s
  rw [h] at hfind
  rw [perform, Command.action, selectFile, runOn_bind_ok hfind, runOn_select_firstSheet]

theorem perform_selectSheet_of_none (h : s.selection = none) :
    s.perform (.selectSheet sheet) = (.error .nothingSelected, s) := by
  rw [perform, Command.action, selectSheet, runOn_bind_ok (runOn_get s), h]
  rfl

theorem perform_selectSheet_of_some {selection : Selection} (hs : s.selection = some selection)
    (hw : getNamed? selection.file s.workbooks = some w) :
    s.perform (.selectSheet sheet)
      = match w.table sheet with
        | .ok t => (.ok (), { s with selection := some ⟨w.name, sheet, t⟩ })
        | .error e => (.error (.unknownSheet e), s) := by
  have hfind := runOn_find selection.file s
  rw [hw] at hfind
  rw [perform, Command.action, selectSheet, runOn_bind_ok (runOn_get s), hs]
  show runOn (find selection.file >>= fun w => select w sheet) s = _
  rw [runOn_bind_ok hfind, runOn_select]

/-! ### Removing -/

/-- The selection of the first of some workbooks, if there is one. -/
def firstOpening? : List (String × Workbook) → Option Selection
  | [] => none
  | (_, w) :: _ => some w.opening

/-- The shelf without a file.  The selection moves to the first file that
remains if it was on the one that goes. -/
def without (s : Shelf) (name : String) : Shelf where
  workbooks := eraseNamed name s.workbooks
  selection :=
    if s.selectedFile? = some name then firstOpening? (eraseNamed name s.workbooks)
    else s.selection

theorem perform_remove_of_none (h : getNamed? name s.workbooks = none) :
    s.perform (.remove name) = (.error (.unknownFile name s.fileNames), s) := by
  have hfind := runOn_find name s
  rw [h] at hfind
  rw [perform, Command.action, Shelf.remove, runOn_bind_error hfind]

theorem perform_remove_of_some (h : getNamed? name s.workbooks = some w) :
    s.perform (.remove name) = (.ok (), s.without name) := by
  have hfind := runOn_find name s
  rw [h] at hfind
  rw [perform, Command.action, Shelf.remove, runOn_bind_ok hfind,
    runOn_bind_ok (runOn_modify _ s), runOn_bind_ok (runOn_get _), without]
  -- taking the workbook away leaves the selection for the next step to look at
  let rest : Shelf := { s with workbooks := eraseNamed name s.workbooks }
  have hrest : rest.selectedFile? = s.selectedFile? := rfl
  by_cases hsel : s.selectedFile? = some name
  · rw [if_pos hsel, if_pos (hrest.trans hsel)]
    rcases eraseNamed name s.workbooks with - | ⟨⟨n, first⟩, others⟩
    · rfl
    · exact runOn_select_firstSheet first _
  · rw [if_neg hsel, if_neg (fun h => hsel (hrest.symm.trans h))]
    rfl

end Shelf

end TableQuery
