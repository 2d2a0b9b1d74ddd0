/-
TableQuery/Settings/Logging.lean

Loading the settings of the log, and setting it up.

The tables of levels in a file are merged into the defaults key by key; the
other two settings replace theirs.  Nothing is checked while loading: a level
is looked at when it is set.

Setting up the log happens once.  If the root already has a handler, nothing
is done.  Otherwise the handler comes first and the levels after it, so a
level that is not known leaves the handler behind.

Scope.  A log is set up with settings that are `UsableSettings`.  A format in
which nothing of a record is shown is refused before there is a handler, and a
name that is no text is refused when its level is to be set; neither refusal is
described here.
-/
import TableQuery.Settings.Loading

namespace TableQuery

open Text

/-! ### Loading -/

/-- The settings of the log.  The keys of the two tables are the names of logs,
but a file can have keys of any kind. -/
structure LoggingSettings where
  rootLevel : Datum := .text "INFO"
  format : Datum := .text "%(asctime)s - %(name)s - %(levelname)s - %(message)s"
  modules : List (Datum × Datum) :=
    [(.text "sheet_chat.core", .text "INFO"), (.text "sheet_chat.ui", .text "INFO")]
  noise : List (Datum × Datum) :=
    [(.text "streamlit", .text "WARNING"), (.text "openpyxl", .text "WARNING")]

namespace LoggingSettings

/-- The values of some keys under the texts of these. -/
def underTexts (table : List (Datum × Datum)) : SettingsTable :=
  table.map fun (key, value) => (key.plainText, value)

/-- The levels of the program's own logs, by name. -/
def moduleLevels (settings : LoggingSettings) : SettingsTable := underTexts settings.modules

/-- The levels of the logs that are to be quiet, by name. -/
def reduceNoise (settings : LoggingSettings) : SettingsTable := underTexts settings.noise

/-- Merges a table of levels from the file; anything but a mapping is passed
over. -/
def merge (table : List (Datum × Datum)) : Datum → List (Datum × Datum)
  | .entries items => items.foldl (fun table (key, value) => Datum.setKey key value table) table
  | _ => table

/-- Takes over one entry of the file. -/
def readEntry (settings : LoggingSettings) (entry : Datum × Datum) : LoggingSettings :=
  match entry with
  | (.text key, value) =>
    if key = "root_level" then { settings with rootLevel := value }
    else if key = "format" then { settings with format := value }
    else if key = "module_levels" then
      { settings with modules := merge settings.modules value }
    else if key = "reduce_noise" then
      { settings with noise := merge settings.noise value }
    else settings
  | _ => settings

/-- Loads the settings of the log from a document. -/
def load (document : Datum) : Loaded LoggingSettings := do
  let entries ← documentEntries document
  return entries.foldl readEntry {}

end LoggingSettings

/-! ### Settings to set up a log with -/

/-- The letters for kinds of values behind the name of a field. -/
def fieldKinds : List Char := "diouxefgcrsa%".toList

/-- Whether a character can stand in the name of a field, as far as ASCII goes. -/
def isFieldChar (c : Char) : Bool := c.isAlphanum || c = '_'

/-- What is behind the number of places of a field, a star or digits. -/
def behindPlaces : List Char → List Char
  | '*' :: cs => cs
  | cs => cs.dropWhile Char.isDigit

/-- Whether a text starts with the letter of a kind, after flags and the numbers
of places in front of the point and behind it, of which none has to be there. -/
def startsKind (cs : List Char) : Bool :=
  match behindPlaces (cs.dropWhile "#0+ -".toList.contains) with
  | [] => false
  | '.' :: cs =>
    behindPlaces cs ≠ cs && (behindPlaces cs).head?.any fun c => fieldKinds.contains c.toLower
  | c :: _ => fieldKinds.contains c.toLower

/-- Whether a text starts with a field of a format: `%(name)` and a kind. -/
def startsField : List Char → Bool
  | '%' :: '(' :: cs =>
    match cs.takeWhile isFieldChar, cs.dropWhile isFieldChar with
    | _ :: _, ')' :: cs => startsKind cs
    | _, _ => false
  | _ => false

/-- Whether a field starts somewhere in a text. -/
def hasField : List Char → Bool
  | [] => false
  | c :: cs => startsField (c :: cs) || hasField cs

/-- Whether a value can be the format of a log.  One that counts as nothing is
replaced, and any other is a text in which a field shows something of a record. -/
def Datum.isFormat : Datum → Bool
  | .text format => format = "" || hasField format.toList
  | d => !d.isSomething

/-- Whether a value can be the name of a log. -/
def Datum.isLogName : Datum → Bool
  | .text _ => true
  | _ => false

/-- Settings that a log can be set up with: they have a format, and names of
logs. -/
structure UsableSettings extends LoggingSettings where
  isFormat : format.isFormat = true
  areLogNames : (modules ++ noise).all (fun entry => entry.1.isLogName) = true

instance : Coe UsableSettings LoggingSettings := ⟨UsableSettings.toLoggingSettings⟩

/-- The settings that hold where a file says nothing. -/
def UsableSettings.usual : UsableSettings where
  isFormat := by decide
  areLogNames := by decide

/-! ### Levels -/

/-- Why a level is refused. -/
inductive LevelError where
  /-- No level has this name. -/
  | unknown (name : String)
  /-- The value, of this text, is neither a number nor a name. -/
  | notALevel (text : String)
  deriving DecidableEq

/-- The message for a level that is refused. -/
def LevelError.message : LevelError → String
  | .unknown name => "Unknown level: " ++ quoted name
  | .notALevel text => "Level not an integer or a valid string: " ++ text

/-- The levels by name. -/
def namedLevels : List (String × Int) :=
  [("CRITICAL", 50), ("FATAL", 50), ("ERROR", 40), ("WARN", 30), ("WARNING", 30), ("INFO", 20),
   ("DEBUG", 10), ("NOTSET", 0)]

/-- The level that a value stands for: a number itself, or a known name. -/
def levelOf : Datum → Except LevelError Int
  | .integer n => .ok n
  | .boolean b => .ok (if b then 1 else 0)
  | .text name =>
    match getNamed? name namedLevels with
    | some n => .ok n
    | none => .error (.unknown name)
  | d => .error (.notALevel d.quotedText)

/-! ### Setting up -/

/-- The state of the log. -/
structure LogState where
  /-- The number of handlers of the root. -/
  handlers : Nat := 0
  rootLevel : Int := 30
  /-- The levels of the named logs; a log without one has level 0. -/
  levels : List (String × Int) := []
  deriving DecidableEq

namespace LogState

/-- Whether a name is that of the root, which has an empty name as well. -/
def isRootName (name : String) : Bool := name = "" || name = "root"

/-- The level of a named log. -/
def level (s : LogState) (name : String) : Int :=
  if isRootName name then s.rootLevel else (getNamed? name s.levels).getD 0

/-- Sets the level of a named log. -/
def setLevel (s : LogState) (name : String) (n : Int) : LogState :=
  if isRootName name then { s with rootLevel := n }
  else { s with levels := setNamed name n s.levels }

def addHandler (s : LogState) : LogState := { s with handlers := s.handlers + 1 }

def clearHandlers (s : LogState) : LogState := { s with handlers := 0 }

/-- Sets the levels of named logs in order, up to the first that is refused. -/
def setLevels : List (String × Datum) → LogState → LogState × Except LevelError Unit
  | [], s => (s, .ok ())
  | (name, value) :: rest, s =>
    match levelOf value with
    | .error e => (s, .error e)
    | .ok n => setLevels rest (s.setLevel name n)

/-- Sets up the log, unless that is done.  A level given here replaces the one
in the settings; with neither, the root keeps its level.  The settings are
taken to be usable. -/
def configure (settings : LoggingSettings) (level : Datum) (s : LogState) :
    LogState × Except LevelError Unit :=
  if s.handlers ≠ 0 then (s, .ok ())
  else
    let s := s.addHandler
    let level := match level with
      | .missing => settings.rootLevel
      | level => level
    let named := settings.moduleLevels ++ settings.reduceNoise
    match level with
    | .missing => setLevels named s
    | level =>
      match levelOf level with
      | .error e => (s, .error e)
      | .ok n => setLevels named { s with rootLevel := n }

end LogState

end TableQuery
