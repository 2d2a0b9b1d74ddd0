/-
TableQuery/Settings/Loading.lean

Loading settings: the file's document, the environment, and what can go wrong.

Design.  A loader yields its warnings beside its outcome, because a warning
that was given stays given when something fails later (`Loaded`).  A document
that is nothing (no file, an empty file, an empty list, zero) counts as no
settings at all; any other document must be a mapping.

The environment overrides a setting only if the setting is there; its text is
turned into the kind that the present value has.  A text that cannot be read
leaves the value as it is, with a warning.
-/
import TableQuery.Document.Fault
import TableQuery.Settings.Coercion
import TableQuery.Table

namespace TableQuery

/-! ### Outcomes -/

/-- What a loader warns of. -/
inductive SettingsWarning where
  /-- A key that no setting has. -/
  | unknownKey (key : String)
  /-- An environment variable that cannot be read. -/
  | environment (name text : String) (kind : SettingKind) (error : CoercionError)
  /-- A value in the file that cannot be read. -/
  | value (key text : String) (kind : SettingKind) (error : CoercionError)
  deriving DecidableEq

/-- The text of a warning about this file. -/
def SettingsWarning.message (file : String) : SettingsWarning → String
  | .unknownKey key => "Unknown query config key " ++ key ++ " in " ++ file ++ ", ignoring"
  | .environment name text kind error =>
    "Failed to coerce env var " ++ name ++ "=" ++ text ++ " to " ++ kind.name ++ ": " ++ error.message
  | .value key text kind error =>
    "Failed to coerce YAML value " ++ key ++ "=" ++ text ++ " to " ++ kind.name ++ ": " ++
      error.message ++ ", using default"

/-- Why settings cannot be loaded. -/
inductive SettingsError where
  /-- The file is no document. -/
  | unreadable (error : DocumentError)
  /-- The document is of this kind and not a mapping. -/
  | notMapping (kind : String)
  /-- The value of this key is not a list of words. -/
  | notWords (key : String)
  /-- The value of this key is not a whole number. -/
  | threshold (key text : String) (error : CoercionError)
  /-- A number out of range. -/
  | overflow (error : CoercionError)
  deriving DecidableEq

/-- The text of an error about this file. -/
def SettingsError.message (file : String) : SettingsError → String
  | .unreadable error => error.message file
  | .notMapping kind => "Invalid config in " ++ file ++ ": expected a mapping, got " ++ kind
  | .notWords key => "Config key " ++ key ++ " in " ++ file ++ " must be a list of strings"
  | .threshold key text error =>
    "Type coercion failed for config " ++ key ++ "=" ++ text ++ ": expected int. Error: " ++
      error.message
  | .overflow error => error.message

/-- The outcome of loading, with the warnings given on the way. -/
structure Loaded (α : Type) where
  warnings : List SettingsWarning
  outcome : Except SettingsError α

namespace Loaded

/-- Nothing went wrong. -/
protected def pure {α : Type} (a : α) : Loaded α := ⟨[], .ok a⟩

def fail {α : Type} (e : SettingsError) : Loaded α := ⟨[], .error e⟩

/-- Goes on with a value, after a warning. -/
def warn {α : Type} (w : SettingsWarning) (a : α) : Loaded α := ⟨[w], .ok a⟩

/-- One loader after another; after a failure nothing follows. -/
protected def bind {α β : Type} (x : Loaded α) (f : α → Loaded β) : Loaded β :=
  match x.outcome with
  | .error e => ⟨x.warnings, .error e⟩
  | .ok a => ⟨x.warnings ++ (f a).warnings, (f a).outcome⟩

instance : Monad Loaded where
  pure := Loaded.pure
  bind := Loaded.bind

end Loaded

/-! ### The document -/

/-- The document of a file, if it has been read. -/
def Loaded.ofRead : Except DocumentError Datum → Loaded Datum
  | .ok document => pure document
  | .error e => .fail (.unreadable e)

/-- The entries of a document.  A document that counts as nothing has none. -/
def documentEntries (document : Datum) : Loaded (List (Datum × Datum)) :=
  match document with
  | .entries items => pure items
  | d => if d.isSomething then .fail (.notMapping d.kindName) else pure []

/-! ### The environment -/

/-- The texts of the environment's variables. -/
abbrev Environment := List (String × String)

/-- Named settings in order. -/
abbrev SettingsTable := List (String × Datum)

/-- Overrides one setting by a variable, if both are there. -/
def overrideOne (environment : Environment) (settings : SettingsTable) (name key : String) :
    Loaded SettingsTable :=
  match getNamed? name environment, getNamed? key settings with
  | some text, some present =>
    match Datum.coerce present.settingKind (.text text) with
    | .ok value => pure (setNamed key value settings)
    | .error error =>
      if error.isOverflow then .fail (.overflow error)
      else .warn (.environment name text present.settingKind error) settings
  | _, _ => pure settings

/-- Overrides settings by variables, in the order of the mapping from
variables to keys. -/
def applyOverrides (environment : Environment) (mapping : List (String × String))
    (settings : SettingsTable) : Loaded SettingsTable :=
  mapping.foldlM (fun settings (name, key) => overrideOne environment settings name key)
    settings

end TableQuery
