/-
TableQuery/Proofs/Answer/Reading.lean

An answer in three steps: what the question is read as, which rows that
selects, and in which order they stand.

The reading of a question depends on its text and on the columns, never on
the rows (`filterOf`, `sortOf`), and a row is selected by looking at that row
alone (`selects`).  So the rows of an answer are the selected rows of the
table, sorted (`rows_ofData`), and everything that is proved about answers
goes through this equation.
-/
import TableQuery.Answer
import TableQuery.Proofs.Rows.Sorting
import TableQuery.Proofs.Text.Blank

namespace TableQuery

open Text

/-! ### Rows at their positions -/

/-- A placed row is one of the table at its position. -/
theorem Table.mem_placedRows {t : Table} {r : PlacedRow} :
    r ∈ t.placedRows ↔ t.rows[r.position]? = some r.row := by
  rw [placedRows, List.mem_mapIdx, List.getElem?_eq_some_iff]
  constructor
  · rintro ⟨i, h, rfl⟩
    exact ⟨h, rfl⟩
  · rintro ⟨h, hrow⟩
    refine ⟨r.position, h, ?_⟩
    rw [hrow]

theorem Table.map_position_placedRows (t : Table) :
    t.placedRows.map (·.position) = List.range t.rows.length :=
  List.ext_getElem (by simp [placedRows]) fun i _ _ => by simp [placedRows]

@[simp] theorem Table.map_row_placedRows (t : Table) : t.placedRows.map (·.row) = t.rows :=
  List.ext_getElem (by simp [placedRows]) fun i _ _ => by simp [placedRows]

/-! ### Reading a question -/

namespace Answer

variable (vocabulary : Vocabulary) (question : String) (columns : List String)

/-- The filter that a question asks for, if it asks for one and means one. -/
def filterOf : Option RowFilter :=
  if (Intent.classify vocabulary question).filter then resolveFilter? vocabulary question columns
  else none

/-- The sort that a question asks for, if it asks for one and means one. -/
def sortOf : Option SortOrder :=
  if (Intent.classify vocabulary question).sort then resolveSort? vocabulary question columns
  else none

/-- Whether a question selects a row. -/
def selects (row : Row) : Bool :=
  if (Intent.classify vocabulary question).isPlainSearch then row.mentions columns question
  else match filterOf vocabulary question columns with
    | none => true
    | some f => f.keeps columns row

variable (settings : QuerySettings) (query : String) (t : Table)

@[simp] theorem intent_ofData :
    (ofData settings query t).intent = Intent.classify settings.vocabulary (lowercase query) := rfl

@[simp] theorem filter_ofData :
    (ofData settings query t).filter = filterOf settings.vocabulary (lowercase query) t.columns :=
  rfl

@[simp] theorem sort_ofData :
    (ofData settings query t).sort = sortOf settings.vocabulary (lowercase query) t.columns := rfl

theorem summary_ofData :
    (ofData settings query t).summary
      = some (Summary.ofRows settings.limits t.columns
          (Intent.classify settings.vocabulary (lowercase query)).summarize
          ((ofData settings query t).rows.map (·.row))) := rfl

/-- **The rows of an answer** are the rows of the table that the question
selects, sorted. -/
theorem rows_ofData :
    (ofData settings query t).rows
      = SortOrder.apply (sortOf settings.vocabulary (lowercase query) t.columns)
          (t.placedRows.filter fun r =>
            selects settings.vocabulary (lowercase query) t.columns r.row) := by
  refine congrArg (SortOrder.apply _) ?_
  show (if (Intent.classify settings.vocabulary (lowercase query)).isPlainSearch then
      searchRows t.columns query t.placedRows
    else RowFilter.apply (filterOf settings.vocabulary (lowercase query) t.columns) t.columns
      t.placedRows) = _
  by_cases hplain : (Intent.classify settings.vocabulary (lowercase query)).isPlainSearch
  · simp only [selects, if_pos hplain, searchRows]
  · simp only [selects, if_neg hplain]
    cases filterOf settings.vocabulary (lowercase query) t.columns with
    | none => exact (List.filter_true _).symm
    | some f => rfl

variable {vocabulary question columns settings query t}

/-- Every row of an answer is selected. -/
theorem selects_of_mem_rows {r : PlacedRow} (h : r ∈ (ofData settings query t).rows) :
    selects settings.vocabulary (lowercase query) t.columns r.row = true := by
  rw [rows_ofData, (SortOrder.apply_perm _ _).mem_iff] at h
  exact (List.mem_filter.1 h).2

/-- A sort is by the column that the question names. -/
theorem matchColumn?_of_sortOf {order : SortOrder}
    (h : sortOf vocabulary question columns = some order) :
    matchColumn? question columns = some order.column := by
  rw [sortOf] at h
  split at h
  · obtain ⟨column, hcolumn, rfl⟩ := Option.map_eq_some_iff.1 h
    exact hcolumn
  · cases h

end Answer

/-! ### Questions with a word -/

theorem strippedQuestion?_of_hasWord {query : String} (h : HasWord query) :
    strippedQuestion? (some query) = some (stripped query) :=
  if_neg (stripped_ne_empty_iff.2 h)

theorem interpret_of_hasData {settings : QuerySettings} {query : String} {t : Table}
    (h : HasWord query) (ht : t.hasData = true) :
    interpret settings (some query) (some t)
      = .ok (Answer.ofData settings (stripped query) t) := by
  rw [interpret, strippedQuestion?_of_hasWord h]
  exact if_pos ht

theorem interpret_of_noData {settings : QuerySettings} {query : String} {t : Table}
    (h : HasWord query) (ht : t.hasData = false) :
    interpret settings (some query) (some t)
      = .ok (Answer.withoutData (stripped query) (some t)) := by
  rw [interpret, strippedQuestion?_of_hasWord h]
  exact if_neg (ne_true_of_eq_false ht)

/-- A question with a word has an answer, whatever table there is. -/
theorem exists_interpret_eq_ok {query : String} (h : HasWord query) (settings : QuerySettings)
    (table : Option Table) : ∃ a, interpret settings (some query) table = .ok a := by
  rcases table with - | t
  · rw [interpret, strippedQuestion?_of_hasWord h]
    exact ⟨_, rfl⟩
  · rcases ht : t.hasData with - | -
    · exact ⟨_, interpret_of_noData h ht⟩
    · exact ⟨_, interpret_of_hasData h ht⟩

/-- An answer says that there is no data, or it is made of the data of the
table. -/
theorem interpret_cases {settings : QuerySettings} {query : Option String} {table : Option Table}
    {a : Answer} (h : interpret settings query table = .ok a) :
    (∃ q, a = Answer.withoutData q table) ∨
      ∃ q t, table = some t ∧ a = Answer.ofData settings q t := by
  rw [interpret] at h
  split at h
  · cases h
  · next q _ =>
    split at h
    · exact .inl ⟨q, (Except.ok.inj h).symm⟩
    · next t =>
      split at h
      · exact .inr ⟨q, t, rfl, (Except.ok.inj h).symm⟩
      · exact .inl ⟨q, (Except.ok.inj h).symm⟩

/-- The summary of an answer is that of its rows. -/
theorem summary_of_interpret {settings : QuerySettings} {query : Option String}
    {table : Option Table} {a : Answer} {s : Summary} (h : interpret settings query table = .ok a)
    (hs : a.summary = some s) :
    ∃ columns requested,
      s = Summary.ofRows settings.limits columns requested (a.rows.map (·.row)) := by
  rcases interpret_cases h with ⟨q, rfl⟩ | ⟨q, t, -, rfl⟩
  · cases hs
  · rw [Answer.summary_ofData] at hs
    exact ⟨_, _, (Option.some.inj hs).symm⟩

theorem Table.hasData_iff {t : Table} : t.hasData = true ↔ t.columns ≠ [] ∧ t.rows ≠ [] := by
  rw [hasData, Bool.and_eq_true, Bool.not_eq_true', Bool.not_eq_true', List.isEmpty_eq_false_iff,
    List.isEmpty_eq_false_iff]

end TableQuery
