/-
TableQuery/Proofs/Answer/SharedColumn.lean

Questions that filter and sort.

A question names one column, and both a filter and a sort look for it there.
So the rows of an answer that has both are selected by the very column that
they are sorted by (`SharesColumn`): they all have the same text there if the
question names a value, whatever the case of the letters, and otherwise they
all have something there.  "where status is ok sorted by score" filters and
sorts by the status.

Main result: `interpret_sharesColumn`.
-/
import TableQuery.Proofs.Answer.Selection

namespace TableQuery

open Text

namespace Answer

variable {vocabulary : Vocabulary} {question : String} {columns : List String}
variable {settings : QuerySettings} {query : String} {t : Table} {order : SortOrder}

/-! ### The column of a sort -/

/-- Only a question that names a column is sorted. -/
theorem namesColumn_of_sortOf (h : sortOf vocabulary question columns = some order) :
    NamesColumn question columns order.column :=
  matchColumn?_eq_some_iff.1 (matchColumn?_of_sortOf h)

/-- Where a column is named, a filter is on that column. -/
theorem filterOf_of_namesColumn {column : String} (hf : Mentions question vocabulary.filterKeywords)
    (hcolumn : NamesColumn question columns column) :
    filterOf vocabulary question columns
      = some ⟨some column, matchValue? question vocabulary.filterValues⟩ := by
  have hfilter : (Intent.classify vocabulary question).filter = true := mentionsAny_iff.2 hf
  rw [filterOf, if_pos hfilter, resolveFilter?, matchColumn?_eq_some_iff.2 hcolumn]

/-! ### The rows -/

/-- An answer is filtered by the column that it is sorted by, and its rows show
it there. -/
structure SharesColumn (a : Answer) (vocabulary : Vocabulary) (question : String)
    (order : SortOrder) : Prop where
  /-- The filter is there, on the column of the sort, with the value that the
  question names. -/
  filter : ∃ value?, a.filter = some ⟨some order.column, value?⟩ ∧
    ∀ value, value? = some value ↔ NamesValue question vocabulary.filterValues value
  /-- If no value is named, every row holds something in the column. -/
  filled : ¬ Mentions question vocabulary.filterValues →
    ∀ r ∈ a.rows, r.row.cell order.column ≠ .absent ∧ r.row.cell order.column ≠ .text ""
  /-- If a value is named, every row has it in the column, whatever the case of
  the letters. -/
  sameText : ∀ value, NamesValue question vocabulary.filterValues value →
    ∀ r ∈ a.rows, r.row.lowerText order.column = lowercase value

/-- Every row of an answer meets the condition of its question. -/
theorem selected_of_mem_rows {r : PlacedRow} (h : r ∈ (ofData settings query t).rows) :
    Selected settings.vocabulary (lowercase query) t.columns r.row :=
  selects_iff.1 (selects_of_mem_rows h)

theorem sharesColumn_ofData
    (hf : Mentions (lowercase query) settings.vocabulary.filterKeywords)
    (h : sortOf settings.vocabulary (lowercase query) t.columns = some order) :
    (ofData settings query t).SharesColumn settings.vocabulary (lowercase query) order := by
  have hcolumn : NamesColumn (lowercase query) t.columns order.column := namesColumn_of_sortOf h
  refine ⟨⟨_, filterOf_of_namesColumn hf hcolumn, fun _ => matchValue?_eq_some_iff⟩, ?_, ?_⟩
  · intro hvalue r hr
    have hnone : ¬ ∃ value, NamesValue (lowercase query) settings.vocabulary.filterValues value :=
      matchValue?_eq_none_iff.1 (matchValue?_eq_none_iff_mentions.2 hvalue)
    exact (selected_of_mem_rows hr).filled hf hnone order.column hcolumn
  · intro value hvalue r hr
    exact (selected_of_mem_rows hr).valueThere hf value hvalue order.column hcolumn

end Answer

/-- **Filter and sort share their column.**  A question with a word, asked
about a table with a column and a row, has an answer; if the answer has both
intents and a sort, it also has a filter, on the column of the sort, and its
rows show that in this column. -/
theorem interpret_sharesColumn {settings : QuerySettings} {query : String} {t : Table}
    (hquery : HasWord query) (hcolumns : t.columns ≠ []) (hrows : t.rows ≠ []) :
    ∃ a, interpret settings (some query) (some t) = .ok a ∧
      (a.intent.filter = true → a.intent.sort = true → ∀ order, a.sort = some order →
        a.SharesColumn settings.vocabulary (lowercase (stripped query)) order) := by
  refine ⟨_, interpret_of_hasData hquery (Table.hasData_iff.2 ⟨hcolumns, hrows⟩), ?_⟩
  intro hfilter _ order horder
  exact Answer.sharesColumn_ofData (mentionsAny_iff.1 hfilter) horder

/-- Two results with their scores. -/
def scored : Table where
  columns := ["status", "score"]
  rows :=
    [[("status", .text "OK"), ("score", .text "7")],
      [("status", .text "Fail"), ("score", .text "9")],
      [("status", .text "ok"), ("score", .text "3")]]
  name := none

/-- A question that names two columns filters and sorts by the first. -/
theorem interpret_sharesColumn_scored :
    HasWord "where status is ok sorted by score" ∧ scored.columns ≠ [] ∧ scored.rows ≠ [] ∧
      ∃ a, interpret {} (some "where status is ok sorted by score") (some scored) = .ok a ∧
        a.intent.filter = true ∧ a.intent.sort = true ∧ a.sort = some ⟨"status", false⟩ ∧
        a.SharesColumn {} (lowercase (stripped "where status is ok sorted by score"))
          ⟨"status", false⟩ := by
  have hquery : HasWord "where status is ok sorted by score" := ⟨'w', by decide, by decide⟩
  have hcolumns : scored.columns ≠ [] := by decide
  have hrows : scored.rows ≠ [] := by decide
  obtain ⟨a, ha, hshares⟩ := @interpret_sharesColumn {} _ _ hquery hcolumns hrows
  obtain rfl : _ = a := Except.ok.inj
    ((interpret_of_hasData hquery (Table.hasData_iff.2 ⟨hcolumns, hrows⟩)).symm.trans ha)
  have hfilter : (Answer.ofData {} (stripped "where status is ok sorted by score")
      scored).intent.filter = true := by decide +kernel
  have hsort : (Answer.ofData {} (stripped "where status is ok sorted by score")
      scored).intent.sort = true := by decide +kernel
  have horder : (Answer.ofData {} (stripped "where status is ok sorted by score") scored).sort
      = some ⟨"status", false⟩ := by decide +kernel
  exact ⟨hquery, hcolumns, hrows, _, ha, hfilter, hsort, horder,
    hshares hfilter hsort _ horder⟩

end TableQuery
