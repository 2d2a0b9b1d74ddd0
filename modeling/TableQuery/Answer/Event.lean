/-
TableQuery/Answer/Event.lean

What the log records of a question.

The events of a question are a view of its outcome: how it was read, what was
resolved, and what came of it, in that order.
-/
import TableQuery.Answer

namespace TableQuery

open Text

/-- A logged event. -/
inductive Event where
  /-- The question was refused. -/
  | failed (query : Option String)
  /-- There was no data to ask about. -/
  | noData (query : String) (table : Option String) (columns : Nat)
  | started (query : String) (table : Option String) (intent : List String) (rows : Nat)
  | filterResolved (column value : Option String)
  | filterUnresolved (question : String)
  | sortResolved (column : String) (descending : Bool)
  | sortUnresolved (question : String)
  | completed (query : String) (intent : List String) (filter sort : Option String)
      (matchedRows : Nat) (summarized : Bool)
  deriving DecidableEq

namespace Event

/-- The name of an event. -/
def name : Event → String
  | .failed _ => "query_interpret_failed"
  | .noData .. => "query_interpret_no_data"
  | .started .. => "query_interpret_start"
  | .filterResolved .. => "filter_resolved"
  | .filterUnresolved _ => "filter_unresolved"
  | .sortResolved .. => "sort_resolved"
  | .sortUnresolved _ => "sort_unresolved"
  | .completed .. => "query_interpret_complete"

/-- The level of an event. -/
def level : Event → String
  | .failed _ => "error"
  | .noData .. | .started .. | .completed .. => "info"
  | _ => "debug"

/-- The event of a filter that was asked for. -/
def ofFilter (question : String) : Option RowFilter → Event
  | some f => .filterResolved f.column f.value
  | none => .filterUnresolved question

/-- The event of a sort that was asked for. -/
def ofSort (question : String) : Option SortOrder → Event
  | some s => .sortResolved s.column s.descending
  | none => .sortUnresolved question

/-- The events of an answer about a table with data. -/
def ofAnswer (table : Table) (a : Answer) : List Event :=
  let question := lowercase a.query
  let labels := a.intent.labels
  let filterEvents := if a.intent.filter then [ofFilter question a.filter] else []
  let sortEvents := if a.intent.sort then [ofSort question a.sort] else []
  let summarized := match a.summary with
    | some s => !s.isEmpty
    | none => false
  .started a.query table.name labels table.rows.length :: filterEvents ++ sortEvents ++
    [.completed a.query labels (a.filter.map (·.describe)) (a.sort.map (·.describe))
      a.rowCount summarized]

/-- The events of a question with its outcome. -/
def ofOutcome (query : Option String) (table : Option Table) :
    Except QuestionError Answer → List Event
  | .error _ => [.failed query]
  | .ok a =>
    match table with
    | none => [.noData a.query none 0]
    | some t =>
      if a.noData then [.noData a.query t.name t.columns.length] else ofAnswer t a

end Event

end TableQuery
