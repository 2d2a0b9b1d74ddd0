/-
TableQuery/Page.lean

The page.

From top to bottom: the titles; in the sidebar the uploads and the choice of
file and sheet; an overview of the table in use; the history; the question
field with the answer to a new question; and the controls of the history.

New uploads are loaded as soon as they are seen.  A file that is too large or
cannot be read is reported and counts as seen.  Removing a file and clearing
the history draw the page anew.  A question is answered once its words are
normalized; one without words is passed over, and the drawing ends with it.

The question field is disabled while there is no table in use.  If it returns a
question all the same, the question is answered without a table.
-/
import TableQuery.Page.Session
import TableQuery.Profile
import TableQuery.Settings.Shipped

namespace TableQuery

open Drawing

namespace Page

/-- The icon of the page. -/
def icon : String := "📊"

/-! ### Settings -/

/-- Loads the settings of the page. -/
def loadSettings (visit : Visit) : Drawing PageSettings := do
  let loaded ← takeLoaded (loadInterface Shipped.interface visit.environment)
  match PageSettings.ofTable? loaded with
  | some settings => return settings
  | none => throw (.failed .unfitSettings)

/-- The settings of questions, loaded when they are first needed. -/
def questionSettings (visit : Visit) : Drawing QuerySettings := do
  match (← session).settings with
  | some settings => return settings
  | none =>
    let loaded ← takeLoaded (LoadedQuery.load Shipped.query visit.environment)
    match loaded.settings? with
    | some settings =>
      change fun s => { s with settings := some settings }
      return settings
    | none => throw (.failed .unfitSettings)

/-! ### Sidebar -/

/-- Loads a new upload, or reports why it cannot be loaded. -/
def takeUpload (settings : PageSettings) (upload : Upload) : Drawing Unit := do
  let megabytes := settings.maxUploadMegabytes
  if megabytes * 1024 * 1024 < upload.size then
    draw (.sidebarError (upload.name ++ " is larger than " ++ integerText megabytes ++ "MB"))
  else
    match ← tryShelf (Shelf.add upload.name upload.content) with
    | .ok _ => pure ()
    | .error (.workbook e) =>
      if e.isOfFile then draw (.sidebarError e.message)
      else throw (.failed (.shelf (.workbook e)))
    | .error e => throw (.failed (.shelf e))

/-- The field for uploads; loads those that are new. -/
def drawUploads (settings : PageSettings) (visit : Visit) : Drawing Unit := do
  draw (.fileUploader "Upload Excel files" ["xlsx"] true
    ("Maximum file size: " ++ integerText settings.maxUploadMegabytes ++ "MB"))
  let seen := (← session).seen.getD []
  let fresh := freshUploads seen visit.uploads
  change fun s => { s with seen := some (markSeen seen fresh) }
  fresh.forM (takeUpload settings)

/-- A choice among options, of which one is in use; the one that is picked, or
else the one in use. -/
def choose (label : String) (options : List String) (inUse : Option String)
    (picked : Option String) : Drawing String := do
  match inUse with
  | none => throw (.failed (.notListed none))
  | some name =>
    match options.idxOf? name with
    | none => throw (.failed (.notListed (some name)))
    | some index =>
      draw (.selectbox label options index)
      match picked with
      | some pick => return if options.contains pick then pick else name
      | none => return name

/-- The choice of the file. -/
def drawFileChoice (visit : Visit) : Drawing Unit := do
  let s ← shelf
  let name ← choose "File" s.fileNames s.selectedFile? visit.file
  if s.selectedFile? ≠ some name then onShelf (Shelf.selectFile name)

/-- The choice of the sheet. -/
def drawSheetChoice (visit : Visit) : Drawing Unit := do
  let s ← shelf
  let name ← choose "Sheet" s.sheetNames s.selectedSheet? visit.sheet
  if s.selectedSheet? ≠ some name then onShelf (Shelf.selectSheet name)

/-- The button that removes the file in use. -/
def drawRemoval (visit : Visit) : Drawing Unit := do
  draw (.sidebarButton "Remove file")
  if visit.removes then
    match (← shelf).selectedFile? with
    | some name => onShelf (Shelf.remove name)
    | none => throw (.failed (.shelf .nothingSelected))
    rerun

/-- The sidebar. -/
def drawSidebar (settings : PageSettings) (visit : Visit) : Drawing Unit := do
  draw (.sidebarHeader "Files")
  drawUploads settings visit
  if (← shelf).fileNames.isEmpty then
    draw (.sidebarInfo "Upload a workbook to get started.")
  else
    drawFileChoice visit
    drawSheetChoice visit
    drawRemoval visit

/-! ### Overview and history -/

/-- The overview of the table in use, if there is one. -/
def drawOverview : Drawing Unit := do
  match (← shelf).activeTable? with
  | none => pure ()
  | some table =>
    let profile := Profile.ofTable table Profile.usualSampleSize
    block (.expander "📋 Dataset Overview" false) do
      draw (.caption profile.summary)
      draw (.dataframe profile.frame)

/-- The message of a role. -/
def drawMessage (role text : String) : Drawing Unit :=
  block (.chatMessage role) (draw (.markdown text))

/-- An exchange as two messages. -/
def drawExchange (e : Exchange) : Drawing Unit := do
  drawMessage "user" e.query.shown
  drawMessage "assistant" e.response.shown

/-- The history. -/
def drawHistory : Drawing Unit := do
  (← session).history.exchanges.forM drawExchange

/-- The controls of the history, if it holds anything. -/
def drawControls (visit : Visit) : Drawing Unit := do
  let history := (← session).history
  if !history.isEmpty then
    draw (.columns 2)
    block (.column 0) (draw (.downloadButton "Export chat history" history.download))
    block (.column 1) do
      draw (.button "Clear chat history")
      if visit.clears then
        change fun s => { s with history := s.history.clear }
        rerun

/-! ### Questions -/

/-- Answers a question, keeps the exchange and draws it.  An answer that has
more rows than are previewed is followed by all of them. -/
def answer (settings : PageSettings) (querySettings : QuerySettings) (visit : Visit)
    (query : String) : Drawing Unit := do
  match (← shelf).ask querySettings query settings.previewRows visit.time with
  | .error e => throw (.failed (.question e))
  | .ok inquiry =>
    change fun s =>
      { s with history := s.history.add inquiry.exchange, answered := s.answered + 1 }
    drawMessage "user" query
    block (.chatMessage "assistant") do
      draw (.markdown inquiry.exchange.response.shown)
      if settings.previewRows < inquiry.answer.rowCount then
        draw (.dataframe (inquiry.answer.frame none))

/-- What is asked: what the question field returns, unless it is empty. -/
def asked? (visit : Visit) (disabled : Bool) : Option String :=
  (visit.returned disabled).filter (· ≠ "")

/-- The question field, with the answer to what it holds, and the controls of
the history. -/
def drawConversation (settings : PageSettings) (querySettings : QuerySettings)
    (visit : Visit) : Drawing Unit := do
  let disabled := (← shelf).activeTable?.isNone
  draw (.chatInput "Ask a question about the active sheet" disabled)
  match asked? visit disabled with
  | none => drawControls visit
  | some text =>
    let query := normalizeQuestion (some text)
    if query ≠ "" then
      answer settings querySettings visit query
      drawControls visit

/-! ### The whole -/

/-- Draws the page. -/
def drawPage (visit : Visit) : Drawing Unit := do
  let settings ← loadSettings visit
  draw (.window settings.title icon "wide")
  draw (.title (icon ++ " " ++ settings.title))
  change fun s => { s with shelf := some (s.shelf.getD {}) }
  let querySettings ← questionSettings visit
  drawSidebar settings visit
  drawOverview
  drawHistory
  drawConversation settings querySettings visit

/-- The outcome of a visit. -/
structure Outcome where
  session : Session
  drawn : List PageElement
  warnings : List SettingsWarning
  /-- Why the drawing stopped before its end, if it did. -/
  stop : Option PageStop

/-- Draws the page for a visit of a session. -/
def visit (session : Session) (v : Visit) : Outcome :=
  let (result, canvas) := (drawPage v).run.run { session }
  { session := canvas.session
    drawn := canvas.drawn
    warnings := canvas.warnings
    stop := match result with
      | .ok _ => none
      | .error stop => some stop }

/-- The outcomes of the visits of a session, in order. -/
def visits (session : Session) : List Visit → List Outcome
  | [] => []
  | v :: rest => let outcome := visit session v; outcome :: visits outcome.session rest

end Page

end TableQuery
