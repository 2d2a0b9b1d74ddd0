/-
TableQuery/Json.lean

JSON values, and their text.

A value is written over several lines: each item of a list and each member of
an object stands on a line of its own, two spaces deeper than what holds it.
An empty list or object has nothing to indent and stays on its line.  Texts
are ASCII.
-/
import TableQuery.Number.Notation
import TableQuery.Text.Escaped

namespace TableQuery

open Text

/-- A JSON value; its numbers are whole. -/
inductive Json where
  | null
  | boolean (value : Bool)
  | number (value : Int)
  | text (value : String)
  | list (items : List Json)
  /-- Members by name, in order. -/
  | object (members : List (String × Json))

namespace Json

instance : Inhabited Json := ⟨.null⟩

/-- A text that may be absent. -/
def ofName : Option String → Json
  | none => .null
  | some s => .text s

/-- The short name of a value's kind. -/
def kindName : Json → String
  | .null => "NoneType"
  | .boolean _ => "bool"
  | .number _ => "int"
  | .text _ => "str"
  | .list _ => "list"
  | .object _ => "dict"

/-! ### Writing -/

/-- A line break and the indentation behind it. -/
def newLine (indent : Nat) : List Char := '\n' :: List.replicate indent ' '

/-- What holds some written items, each on its own line. -/
def enclose (opening closing : Char) (indent : Nat) (items : List (List Char)) : List Char :=
  if items.isEmpty then [opening, closing]
  else
    opening :: newLine (indent + 2) ++
      List.intercalate (',' :: newLine (indent + 2)) items ++ newLine indent ++ [closing]

mutual

/-- A value at this indentation. -/
def written (indent : Nat) : Json → List Char
  | .null => "null".toList
  | .boolean b => (if b then "true" else "false").toList
  | .number n => (integerText n).toList
  | .text s => escaped s.toList
  | .list items => enclose '[' ']' indent (writtenItems (indent + 2) items)
  | .object members => enclose '\x7b' '\x7d' indent (writtenMembers (indent + 2) members)

/-- The items of a list. -/
def writtenItems (indent : Nat) : List Json → List (List Char)
  | [] => []
  | item :: items => written indent item :: writtenItems indent items

/-- The members of an object, each behind its name. -/
def writtenMembers (indent : Nat) : List (String × Json) → List (List Char)
  | [] => []
  | (name, value) :: members =>
    (escaped name.toList ++ ": ".toList ++ written indent value) :: writtenMembers indent members

end

/-- The text of a value as a page shows it: a text as it is. -/
def shown : Json → String
  | .text s => s
  | v => String.ofList (v.written 0)

end Json

end TableQuery
