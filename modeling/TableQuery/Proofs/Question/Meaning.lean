/-
TableQuery/Proofs/Question/Meaning.lean

What a question means, said without the scans that find it out.

A word counts if it occurs in the question as one piece (`Occurs`), and of
several columns or values the first declared one counts (`IsFirst`).  With
these two notions the column and the value of a question are relations,
`NamesColumn` and `NamesValue`, and the scans are proved to decide them.
-/
import TableQuery.Question.Resolution

namespace TableQuery

open Text

/-! ### Occurrence and being first -/

/-- One text stands inside another as one piece. -/
def Text.Occurs (part text : String) : Prop := part.toList <:+: text.toList

theorem Text.contains_iff {text part : String} : contains text part = true ↔ Occurs part text :=
  occursIn_iff

/-- An element of a list has a property, and none in front of it does. -/
def IsFirst {α : Type} (p : α → Prop) (xs : List α) (x : α) : Prop :=
  p x ∧ ∃ earlier later, xs = earlier ++ x :: later ∧ ∀ y ∈ earlier, ¬ p y

section Scan

variable {α : Type} {p : α → Prop} {test : α → Bool} {xs : List α} {x : α}

theorem find?_eq_some_iff_isFirst (h : ∀ x, test x = true ↔ p x) :
    xs.find? test = some x ↔ IsFirst p xs x := by
  rw [List.find?_eq_some_iff_append, IsFirst, h]
  simp only [Bool.not_eq_true', ← Bool.not_eq_true, h]

theorem find?_eq_none_iff_isFirst (h : ∀ x, test x = true ↔ p x) :
    xs.find? test = none ↔ ¬ ∃ x, IsFirst p xs x := by
  rw [← Option.not_isSome_iff_eq_none, Option.isSome_iff_exists]
  simp only [find?_eq_some_iff_isFirst h]

end Scan

/-! ### Keywords, columns and values -/

/-- Some of the words occurs in a question. -/
def Mentions (question : String) (words : List String) : Prop :=
  ∃ word ∈ words, Occurs word question

theorem mentionsAny_iff {question : String} {words : List String} :
    mentionsAny question words = true ↔ Mentions question words := by
  rw [mentionsAny, List.any_eq_true]
  simp only [contains_iff]
  rfl

/-- The column that a question names: the first declared one that has a name
and whose lower-cased name occurs in it. -/
def NamesColumn (question : String) (columns : List String) (column : String) : Prop :=
  IsFirst (fun c => lowercase c ≠ "" ∧ Occurs (lowercase c) question) columns column

/-- The value that a question names: the first declared one that occurs in
it. -/
def NamesValue (question : String) (values : List String) (value : String) : Prop :=
  IsFirst (fun v => Occurs v question) values value

theorem matchColumn?_eq_some_iff {question column : String} {columns : List String} :
    matchColumn? question columns = some column ↔ NamesColumn question columns column :=
  find?_eq_some_iff_isFirst fun c => by
    rw [Bool.and_eq_true, decide_eq_true_eq, contains_iff]

theorem matchColumn?_eq_none_iff {question : String} {columns : List String} :
    matchColumn? question columns = none ↔ ¬ ∃ column, NamesColumn question columns column :=
  find?_eq_none_iff_isFirst fun c => by
    rw [Bool.and_eq_true, decide_eq_true_eq, contains_iff]

theorem matchValue?_eq_some_iff {question value : String} {values : List String} :
    matchValue? question values = some value ↔ NamesValue question values value :=
  find?_eq_some_iff_isFirst fun _ => contains_iff

theorem matchValue?_eq_none_iff {question : String} {values : List String} :
    matchValue? question values = none ↔ ¬ ∃ value, NamesValue question values value :=
  find?_eq_none_iff_isFirst fun _ => contains_iff

theorem matchValue?_eq_none_iff_mentions {question : String} {values : List String} :
    matchValue? question values = none ↔ ¬ Mentions question values := by
  rw [matchValue?, List.find?_eq_none, Mentions]
  simp only [contains_iff, not_exists, not_and]

/-! ### Filters and sorts -/

section Resolved

variable {vocabulary : Vocabulary} {question : String} {columns : List String}

/-- A filter is on the column and for the value that are found. -/
theorem eq_of_resolveFilter? {filter : RowFilter}
    (h : resolveFilter? vocabulary question columns = some filter) :
    filter = ⟨matchColumn? question columns, matchValue? question vocabulary.filterValues⟩ := by
  rw [resolveFilter?] at h
  split at h
  · cases h
  · exact (Option.some.inj h).symm

/-- A sort is by the column that is found. -/
theorem column_of_resolveSort? {order : SortOrder}
    (h : resolveSort? vocabulary question columns = some order) :
    matchColumn? question columns = some order.column := by
  rw [resolveSort?] at h
  obtain ⟨c, hc, rfl⟩ := Option.map_eq_some_iff.1 h
  exact hc

end Resolved

end TableQuery
