/-
TableQuery/Question/Resolution.lean

Which column and which value a question means.

Columns and values are found by their text: the first one, in declared order,
that occurs in the question.  A column without a name is never meant.  A
filter and a sort of one question always mean the same column, because both
look for it in the same way.
-/
import TableQuery.Question.Intent
import TableQuery.Text.Lowercase

namespace TableQuery

open Text

/-- A resolved filter: a value in one column or in any, or, without a value,
a column that is not empty. -/
structure RowFilter where
  column : Option String
  value : Option String
  deriving DecidableEq

/-- A resolved sort. -/
structure SortOrder where
  column : String
  descending : Bool
  deriving DecidableEq

/-- The filter in words. -/
def RowFilter.describe (f : RowFilter) : String :=
  match f.value with
  | some value => f.column.getD "any column" ++ " = " ++ value
  | none => f.column.getD "None" ++ " is not empty"

/-- The sort in words. -/
def SortOrder.describe (s : SortOrder) : String :=
  s.column ++ " " ++ (if s.descending then "descending" else "ascending")

/-- The first column whose lower-cased name occurs in a question. -/
def matchColumn? (question : String) (columns : List String) : Option String :=
  columns.find? fun column =>
    lowercase column ≠ "" && contains question (lowercase column)

/-- The first value that occurs in a question. -/
def matchValue? (question : String) (values : List String) : Option String :=
  values.find? (contains question ·)

/-- The filter that a question means, if it names a value or a column. -/
def resolveFilter? (vocabulary : Vocabulary) (question : String) (columns : List String) :
    Option RowFilter :=
  match matchColumn? question columns, matchValue? question vocabulary.filterValues with
  | none, none => none
  | column, value => some ⟨column, value⟩

/-- The sort that a question means, if it names a column. -/
def resolveSort? (vocabulary : Vocabulary) (question : String) (columns : List String) :
    Option SortOrder :=
  (matchColumn? question columns).map fun column =>
    ⟨column, mentionsAny question vocabulary.descendingKeywords⟩

end TableQuery
