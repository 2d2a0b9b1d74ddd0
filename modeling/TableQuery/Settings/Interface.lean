/-
TableQuery/Settings/Interface.lean

Loading the settings of the page.

A value that cannot be read leaves the default, with a warning; keys that no
setting has are passed over in silence.  A value that the file gives as
nothing stays nothing, and the environment then replaces it by plain text.
-/
import TableQuery.Settings.Loading

namespace TableQuery

/-- The settings of the page, in order, as they are without a file. -/
def interfaceDefaults : SettingsTable :=
  [("page_title", .text "Sheet Chat"),
   ("max_upload_size_mb", .integer 50),
   ("preview_rows", .integer 20),
   ("log_level", .text "INFO")]

/-- The variables that override the settings of the page. -/
def interfaceVariables : List (String × String) :=
  [("SHEET_CHAT_PAGE_TITLE", "page_title"),
   ("MAX_UPLOAD_SIZE_MB", "max_upload_size_mb"),
   ("PREVIEW_ROWS", "preview_rows"),
   ("LOG_LEVEL", "log_level")]

/-- Takes over one entry of the file, as the kind that its default has. -/
def readInterfaceEntry (settings : SettingsTable) (entry : Datum × Datum) :
    Loaded SettingsTable :=
  match entry with
  | (.text key, value) =>
    match getNamed? key interfaceDefaults with
    | none => pure settings
    | some default =>
      match Datum.coerce default.settingKind value with
      | .ok value => pure (setNamed key value settings)
      | .error error =>
        if error.isOverflow then .fail (.overflow error)
        else .warn (.value key value.plainText default.settingKind error) settings
  | _ => pure settings

/-- Loads the settings of the page from a document and the environment. -/
def loadInterface (document : Datum) (environment : Environment) : Loaded SettingsTable := do
  let entries ← documentEntries document
  let settings ← entries.foldlM readInterfaceEntry interfaceDefaults
  applyOverrides environment interfaceVariables settings

/-- What the page needs of its settings. -/
structure PageSettings where
  title : String := "Sheet Chat"
  maxUploadMegabytes : Int := 50
  previewRows : Int := 20
  deriving DecidableEq

/-- The settings the page needs, if each is of its kind. -/
def PageSettings.ofTable? (settings : SettingsTable) : Option PageSettings :=
  match getNamed? "page_title" settings, getNamed? "max_upload_size_mb" settings,
      getNamed? "preview_rows" settings with
  | some (.text title), some (.integer megabytes), some (.integer rows) =>
    some ⟨title, megabytes, rows⟩
  | _, _, _ => none

end TableQuery
