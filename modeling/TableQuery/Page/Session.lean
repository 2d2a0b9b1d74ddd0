/-
TableQuery/Page/Session.lean

Sessions and visits.

A session is what stays between two drawings of the page: the shelf, the
history, the identities of the uploads that were seen, and the settings of
questions, which are loaded once.  A visit is what one drawing is given: what
the fields and buttons of the page report, the environment and the time.  What
is reported is up to the host of the page; that a disabled field cannot be used
is its affair as well, so the visit says what such a field returns.

A drawing (`Drawing`) changes the session and adds elements and warnings as
it goes.  It can stop early, for a fresh start or because of an error; what
was drawn and changed before that stays.
-/
import TableQuery.Inquiry
import TableQuery.Page.Element
import TableQuery.Settings.Interface
import TableQuery.Settings.Query
import TableQuery.Upload

namespace TableQuery

open Text

/-! ### Sessions and visits -/

/-- What stays between two drawings of the page. -/
structure Session where
  /-- The shelf, once the page has made it. -/
  shelf : Option Shelf := none
  history : History := {}
  /-- The identities of the uploads that were seen, once the page has asked
  for uploads. -/
  seen : Option (List String) := none
  /-- The settings of questions, once they are loaded. -/
  settings : Option QuerySettings := none
  /-- The number of questions answered so far, also of those that were
  cleared. -/
  answered : Nat := 0

/-- What one drawing of the page is given. -/
structure Visit where
  uploads : List Upload := []
  /-- The file that is picked. -/
  file : Option String := none
  /-- The sheet that is picked. -/
  sheet : Option String := none
  /-- Whether the button for removing the file is pressed. -/
  removes : Bool := false
  /-- Whether the button for clearing the history is pressed. -/
  clears : Bool := false
  /-- What the question field returns while it can be used. -/
  question : Option String := none
  /-- What the question field returns while it is disabled; nothing, unless the
  host lets something through. -/
  disabledQuestion : Option String := none
  environment : Environment := []
  time : Moment

/-- What the question field returns. -/
def Visit.returned (v : Visit) (disabled : Bool) : Option String :=
  if disabled then v.disabledQuestion else v.question

/-! ### Drawings -/

/-- Why a page cannot be drawn. -/
inductive PageError where
  | settings (error : SettingsError)
  /-- A setting is not of the kind that the page needs. -/
  | unfitSettings
  | shelf (error : ShelfError)
  | question (error : QuestionError)
  /-- The name in use is not among the options. -/
  | notListed (name : Option String)

/-- The message for a page that cannot be drawn; `file` names the settings
file. -/
def PageError.message (file : String) : PageError → String
  | .settings error => error.message file
  | .unfitSettings => "A setting of the page is of the wrong kind"
  | .shelf error => error.message
  | .question error => error.message
  | .notListed name => (name.map quoted).getD "None" ++ " is not in list"

/-- Why a drawing stops before its end. -/
inductive PageStop where
  /-- The page is to be drawn anew. -/
  | rerun
  | failed (error : PageError)

/-- The state of a drawing. -/
structure Canvas where
  session : Session
  drawn : List PageElement := []
  warnings : List SettingsWarning := []

/-- A part of a drawing. -/
abbrev Drawing (α : Type) := ExceptT PageStop (StateM Canvas) α

namespace Drawing

/-- Draws an element. -/
def draw (e : PageElement) : Drawing Unit :=
  modify fun c => { c with drawn := c.drawn ++ [e] }

/-- Draws a block. -/
def block (opening : PageElement) (content : Drawing Unit) : Drawing Unit := do
  draw opening
  content
  draw .close

/-- Stops for a fresh start. -/
def rerun : Drawing Unit := do
  draw .rerun
  throw .rerun

/-- The session as it is. -/
def session : Drawing Session := do return (← get).session

/-- The shelf as it is. -/
def shelf : Drawing Shelf := do return (← session).shelf.getD {}

/-- Changes the session. -/
def change (f : Session → Session) : Drawing Unit :=
  modify fun c => { c with session := f c.session }

/-- Takes loaded settings, with their warnings. -/
def takeLoaded {α : Type} (loaded : Loaded α) : Drawing α := do
  modify fun c => { c with warnings := c.warnings ++ loaded.warnings }
  match loaded.outcome with
  | .ok a => return a
  | .error e => throw (.failed (.settings e))

/-- Does an action on the shelf; its failure is returned. -/
def tryShelf {α : Type} (action : ShelfAction α) : Drawing (Except ShelfError α) := do
  let (result, after) := action.run.run (← shelf)
  change fun s => { s with shelf := some after }
  return result

/-- Does an action on the shelf; its failure stops the drawing. -/
def onShelf {α : Type} (action : ShelfAction α) : Drawing α := do
  match ← tryShelf action with
  | .ok a => return a
  | .error e => throw (.failed (.shelf e))

end Drawing

end TableQuery
