/-
TableQuery/History/Saved.lean

The saved form of a history, and reading it back.

A saved history is an object with the list of exchanges, each an object of
its five parts; the time is its written form.  Reading asks for the question,
the answer and the time of each exchange in this order, and stops at the
first part that is missing; only the time is looked into.  File and sheet may
be absent, other members are passed over, and an object without exchanges is
an empty history.
-/
import TableQuery.History
import TableQuery.Named

namespace TableQuery

/-! ### Saving -/

/-- The saved form of an exchange. -/
def Exchange.save (e : Exchange) : Json :=
  .object [
    ("query", e.query),
    ("response", e.response),
    ("timestamp", .text e.time.isoText),
    ("file_name", e.fileName),
    ("sheet_name", e.sheetName)]

/-- The saved form of a history. -/
def History.save (h : History) : Json :=
  .object [("exchanges", .list (h.exchanges.map Exchange.save))]

/-! ### Reading back -/

/-- Why a saved history cannot be read back. -/
inductive RestoreError where
  /-- The whole is of this kind and not an object. -/
  | notObject (kind : String)
  /-- The exchanges are of this kind and not a list. -/
  | notSequence (kind : String)
  /-- An exchange is a text. -/
  | textExchange
  /-- An exchange is a list. -/
  | listExchange
  /-- An exchange is of this kind and has no parts at all. -/
  | noParts (kind : String)
  /-- An exchange lacks this part. -/
  | missingPart (key : String)
  /-- The time of an exchange is no text. -/
  | timeNotText
  /-- The time of an exchange cannot be read. -/
  | time (error : TimeError)
  deriving DecidableEq

/-- The message for a saved history that cannot be read back. -/
def RestoreError.message : RestoreError → String
  | .notObject kind => "'" ++ kind ++ "' object has no attribute 'get'"
  | .notSequence kind => "'" ++ kind ++ "' object is not iterable"
  | .textExchange => "string indices must be integers, not 'str'"
  | .listExchange => "list indices must be integers or slices, not str"
  | .noParts kind => "'" ++ kind ++ "' object is not subscriptable"
  | .missingPart key => key
  | .timeNotText => "fromisoformat: argument must be str"
  | .time error => error.message

/-- The items that a value consists of, if it consists of any: a text of its
characters, an object of its names. -/
def Json.items? : Json → Option (List Json)
  | .list items => some items
  | .text s => some (s.toList.map fun c => .text (String.singleton c))
  | .object members => some (members.map fun m => .text m.1)
  | _ => none

namespace Exchange

/-- A part that every exchange has. -/
def part (item : Json) (key : String) : Except RestoreError Json :=
  match item with
  | .object parts =>
    match getNamed? key parts with
    | some value => .ok value
    | none => .error (.missingPart key)
  | .text _ => .error .textExchange
  | .list _ => .error .listExchange
  | other => .error (.noParts other.kindName)

/-- A part that an exchange may have. -/
def partOrNull (item : Json) (key : String) : Json :=
  match item with
  | .object parts => (getNamed? key parts).getD .null
  | _ => .null

/-- The time of an exchange. -/
def timePart (item : Json) : Except RestoreError Moment := do
  match ← part item "timestamp" with
  | .text s => (Moment.read s).mapError .time
  | _ => .error .timeNotText

/-- Reads an exchange back. -/
def restore (item : Json) : Except RestoreError Exchange := do
  return {
    query := ← part item "query"
    response := ← part item "response"
    time := ← timePart item
    fileName := partOrNull item "file_name"
    sheetName := partOrNull item "sheet_name" }

end Exchange

/-- Reads a saved history back. -/
def History.restore : Json → Except RestoreError History
  | .object parts => do
    let saved := (getNamed? "exchanges" parts).getD (.list [])
    match saved.items? with
    | some items => return ⟨← items.mapM Exchange.restore⟩
    | none => .error (.notSequence saved.kindName)
  | other => .error (.notObject other.kindName)

end TableQuery
