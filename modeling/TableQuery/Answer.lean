/-
TableQuery/Answer.lean

Answering a question about a table.

A question is stripped, lower-cased and classified; its column and value are
resolved; then rows are selected and sorted, and the result is summarized.
An answer holds the rows and how the question was read.  A table without
columns or rows gives an answer too, which says that there is no data; only a
question without a word is refused.
-/
import TableQuery.Rows.Selection
import TableQuery.Summary

namespace TableQuery

open Text

/-- Why a question is refused. -/
inductive QuestionError where
  | blank
  deriving DecidableEq

/-- The message for a question that is refused. -/
def QuestionError.message : QuestionError → String
  | .blank => "Query cannot be empty"

/-- The answer to a question. -/
structure Answer where
  /-- The question as asked, stripped. -/
  query : String
  columns : List String
  intent : Intent
  filter : Option RowFilter
  sort : Option SortOrder
  rows : List PlacedRow
  /-- The summary; none if there was no data to ask about. -/
  summary : Option Summary

namespace Answer

/-- Whether there was no data to ask about. -/
def noData (a : Answer) : Bool := a.summary.isNone

def rowCount (a : Answer) : Nat := a.rows.length

/-- The answer where there is no data. -/
def withoutData (query : String) (table : Option Table) : Answer where
  query
  columns := (table.map (·.columns)).getD []
  intent := {}
  filter := none
  sort := none
  rows := []
  summary := none

/-- The text of the summary. -/
def summaryText (a : Answer) : String :=
  match a.summary with
  | none => "No data available"
  | some s => s.text

/-- The cells of the answer, row by row, in the order of the columns. -/
def cells (a : Answer) : List (List Cell) :=
  a.rows.map fun r => a.columns.map r.row.cell

/-- The rows of the answer as records: a column that is there twice is one
field. -/
def records (a : Answer) : List (List (String × Cell)) :=
  a.rows.map fun r => a.columns.eraseDups.map fun c => (c, r.row.cell c)

/-- The answer to a question, given stripped, about a table with data. -/
def ofData (settings : QuerySettings) (query : String) (table : Table) : Answer :=
  let question := lowercase query
  let vocabulary := settings.vocabulary
  let columns := table.columns
  let intent := Intent.classify vocabulary question
  let filter := if intent.filter then resolveFilter? vocabulary question columns else none
  let sort := if intent.sort then resolveSort? vocabulary question columns else none
  let selected :=
    if intent.isPlainSearch then searchRows columns query table.placedRows
    else RowFilter.apply filter columns table.placedRows
  let rows := SortOrder.apply sort selected
  { query, columns, intent, filter, sort, rows
    summary := some
      (Summary.ofRows settings.limits columns intent.summarize (rows.map (·.row))) }

end Answer

/-- A question without the white space around it, if there is anything else. -/
def strippedQuestion? (query : Option String) : Option String :=
  match query with
  | none => none
  | some q =>
    let stripped := String.ofList (strip q.toList)
    if stripped = "" then none else some stripped

/-- Answers a question about a table, if there is one. -/
def interpret (settings : QuerySettings) (query : Option String) (table : Option Table) :
    Except QuestionError Answer :=
  match strippedQuestion? query with
  | none => .error .blank
  | some query =>
    match table with
    | none => .ok (Answer.withoutData query none)
    | some t =>
      if t.hasData then .ok (Answer.ofData settings query t)
      else .ok (Answer.withoutData query (some t))

end TableQuery
