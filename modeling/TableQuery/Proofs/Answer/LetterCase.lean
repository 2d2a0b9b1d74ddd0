/-
TableQuery/Proofs/Answer/LetterCase.lean

The case of letters does not matter for which rows an answer holds.

A row is selected by the texts of its cells in lower case.  A search and a
filter for a value ask for nothing else; a filter without a value asks whether a
cell is empty, and that too can be told from the text in lower case, because
lower-casing leaves something of every text that is not empty
(`Row.isEmpty_cell`).  A question is read in lower case from the start.  So two
questions with the same lower case, asked about two tables with the same texts
in lower case, are read in the same way and select the same rows
(`Row.SameLower`, `Table.SameLower`).

The order of the rows is another matter: a sort compares texts as they are
written, capital letters before small ones.

Main result: `interpret_letterCase`.
-/
import TableQuery.Proofs.Answer.Selection
import TableQuery.Proofs.Cell.Reading
import TableQuery.Proofs.Rows.Correspondence
import TableQuery.Proofs.Text.Lowercase

namespace TableQuery

open Text

/-! ### Texts -/

theorem Text.lowercase_eq_empty_iff {s : String} : lowercase s = "" ↔ s = "" := by
  constructor
  · intro h
    by_contra hne
    exact lowercase_ne_empty hne h
  · rintro rfl
    decide

/-- A question whose lower case is that of a question with a word has one
too. -/
theorem Text.HasWord.of_lowercase_eq {query query' : String} (h : HasWord query)
    (hsame : lowercase (stripped query) = lowercase (stripped query')) : HasWord query' := by
  rw [← stripped_ne_empty_iff, Ne, ← lowercase_eq_empty_iff] at h ⊢
  rwa [← hsame]

/-! ### Rows -/

/-- Two rows with the same texts in each of the columns but for the case of
letters, whatever else they hold. -/
def Row.SameLower (columns : List String) (r s : Row) : Prop :=
  ∀ column ∈ columns, r.lowerText column = s.lowerText column

instance (columns : List String) (r s : Row) : Decidable (r.SameLower columns s) :=
  inferInstanceAs (Decidable (∀ column ∈ columns, _))

/-- Whether a cell is empty can be told from its text in lower case. -/
theorem Row.isEmpty_cell (row : Row) (column : String) :
    (row.cell column).isEmpty = decide (row.lowerText column = "") := by
  rw [Cell.isEmpty_eq_plainText, lowerText]
  exact decide_eq_decide.2 lowercase_eq_empty_iff.symm

section Selecting

variable {columns : List String} {r s : Row}

/-- A test of the lower-cased text of some column comes out the same. -/
theorem Row.SameLower.any_lowerText (h : r.SameLower columns s) (test : String → Bool) :
    (columns.any fun column => test (r.lowerText column))
      = columns.any fun column => test (s.lowerText column) := by
  rw [Bool.eq_iff_iff, List.any_eq_true, List.any_eq_true]
  refine exists_congr fun column => and_congr_right fun hcolumn => ?_
  rw [h column hcolumn]

/-- A filter does not tell rows apart that have the same texts in its column
but for the case of letters. -/
theorem Row.SameLower.keeps (h : r.SameLower columns s) {f : RowFilter}
    (hf : ∀ column ∈ f.column, column ∈ columns) : f.keeps columns r = f.keeps columns s := by
  obtain ⟨column?, value?⟩ := f
  rcases column? with - | column
  · rcases value? with - | value
    · rfl
    · exact h.any_lowerText fun text => text = lowercase value
  · have htext : r.lowerText column = s.lowerText column := h column (hf column rfl)
    rcases value? with - | value
    · -- the filter asks for any text at all, and does so in the case written
      show (!(r.cell column).isEmpty) = !(s.cell column).isEmpty
      rw [Row.isEmpty_cell, Row.isEmpty_cell, htext]
    · simp only [RowFilter.keeps, htext]

end Selecting

namespace Answer

variable {vocabulary : Vocabulary} {question : String} {columns : List String}

/-- A question means no column but one of the table. -/
theorem mem_of_matchColumn? {column : String} (h : matchColumn? question columns = some column) :
    column ∈ columns :=
  List.mem_of_find?_eq_some h

theorem mem_of_filterOf {f : RowFilter} (h : filterOf vocabulary question columns = some f) :
    ∀ column ∈ f.column, column ∈ columns := by
  rw [filterOf] at h
  split at h
  · intro column hcolumn
    rw [eq_of_resolveFilter? h] at hcolumn
    exact mem_of_matchColumn? hcolumn
  · cases h

theorem selects_sameLower {r s : Row} (h : r.SameLower columns s) :
    selects vocabulary question columns r = selects vocabulary question columns s := by
  rw [selects, selects]
  split
  · exact h.any_lowerText fun text => contains text question
  · rcases hf : filterOf vocabulary question columns with - | f
    · rfl
    · exact h.keeps (mem_of_filterOf hf)

end Answer

/-! ### Tables -/

/-- Corresponding rows stand at the same positions. -/
theorem Table.forall₂_placedRows {related : Row → Row → Prop} {t u : Table}
    (h : List.Forall₂ related t.rows u.rows) :
    List.Forall₂ (fun p q : PlacedRow => p.position = q.position ∧ related p.row q.row)
      t.placedRows u.placedRows := by
  refine List.forall₂_of_length_eq_of_get ?_ ?_
  · simp only [placedRows, List.length_mapIdx, h.length_eq]
  · intro i hi hi'
    simp only [placedRows, List.length_mapIdx] at hi hi'
    simp only [placedRows, List.get_eq_getElem, List.getElem_mapIdx]
    exact ⟨trivial, h.get hi hi'⟩

/-- Two tables with the same columns and as many rows, and with the same texts
but for the case of letters. -/
structure Table.SameLower (t u : Table) : Prop where
  columns : t.columns = u.columns
  rows : List.Forall₂ (Row.SameLower t.columns) t.rows u.rows

instance (t u : Table) : Decidable (t.SameLower u) :=
  decidable_of_iff (t.columns = u.columns ∧ List.Forall₂ (Row.SameLower t.columns) t.rows u.rows)
    ⟨fun h => ⟨h.1, h.2⟩, fun h => ⟨h.columns, h.rows⟩⟩

theorem Table.SameLower.hasData {t u : Table} (h : t.SameLower u) : t.hasData = u.hasData := by
  rw [Table.hasData, Table.hasData, h.columns, isEmpty_corresponds h.rows]

/-! ### Answers -/

namespace Answer

/-- Two answers that read the question in the same way and select the same
positions, in the same order if they are not sorted. -/
structure SelectsAlike (a b : Answer) : Prop where
  intent : a.intent = b.intent
  filter : a.filter = b.filter
  sort : a.sort = b.sort
  selected : a.positions.Perm b.positions
  unsorted : a.sort = none → a.positions = b.positions

variable {settings : QuerySettings} {query query' : String} {t u : Table}

/-- Corresponding rows at the same positions are selected alike. -/
theorem positions_filter_sameLower (vocabulary : Vocabulary) (question : String)
    (h : t.SameLower u) :
    (t.placedRows.filter fun r => selects vocabulary question t.columns r.row).map (·.position)
      = (u.placedRows.filter fun r => selects vocabulary question t.columns r.row).map
          (·.position) := by
  have hkept : List.Forall₂
      (fun p q : PlacedRow => p.position = q.position ∧ p.row.SameLower t.columns q.row)
      (t.placedRows.filter fun r => selects vocabulary question t.columns r.row)
      (u.placedRows.filter fun r => selects vocabulary question t.columns r.row) := by
    refine List.rel_filter ?_ (Table.forall₂_placedRows h.rows)
    intro p q hpq
    exact Bool.eq_iff_iff.1 (selects_sameLower hpq.2)
  have hpositions := List.rel_map (fun _ _ hpq => And.left hpq) hkept
  rwa [List.forall₂_eq_eq_eq] at hpositions

/-- Where there is no data all questions are answered alike. -/
theorem selectsAlike_withoutData (query query' : String) (t u : Option Table) :
    (withoutData query t).SelectsAlike (withoutData query' u) where
  intent := rfl
  filter := rfl
  sort := rfl
  selected := .refl _
  unsorted _ := rfl

theorem selectsAlike_ofData (hsame : lowercase query = lowercase query') (h : t.SameLower u) :
    (ofData settings query t).SelectsAlike (ofData settings query' u) := by
  have hfiltered := positions_filter_sameLower settings.vocabulary (lowercase query) h
  refine ⟨?_, ?_, ?_, ?_, fun hsort => ?_⟩
  · rw [intent_ofData, intent_ofData, hsame]
  · rw [filter_ofData, filter_ofData, hsame, h.columns]
  · rw [sort_ofData, sort_ofData, hsame, h.columns]
  -- a sort may order the rows of the two tables differently, but it only changes places
  · rw [positions, positions, rows_ofData, rows_ofData, ← hsame, ← h.columns]
    exact ((SortOrder.apply_perm _ _).map _).trans
      (.trans (.of_eq hfiltered) ((SortOrder.apply_perm _ _).map _).symm)
  · rw [sort_ofData] at hsort
    rw [positions, positions, rows_ofData, rows_ofData, ← hsame, ← h.columns, hsort]
    exact hfiltered

end Answer

/-- **Which rows are selected does not depend on the case of letters.**  Two
questions with the same lower case, asked about two tables with the same texts
in lower case, have answers that read the question in the same way and select
the same positions. -/
theorem interpret_letterCase (settings : QuerySettings) {query query' : String} {t u : Table}
    (hquery : HasWord query)
    (hsame : lowercase (stripped query) = lowercase (stripped query')) (h : t.SameLower u) :
    ∃ a b, interpret settings (some query) (some t) = .ok a ∧
      interpret settings (some query') (some u) = .ok b ∧ a.SelectsAlike b := by
  have hquery' : HasWord query' := hquery.of_lowercase_eq hsame
  rcases ht : t.hasData with - | -
  · have hu : u.hasData = false := h.hasData ▸ ht
    exact ⟨_, _, interpret_of_noData hquery ht, interpret_of_noData hquery' hu,
      Answer.selectsAlike_withoutData _ _ _ _⟩
  · have hu : u.hasData = true := h.hasData ▸ ht
    exact ⟨_, _, interpret_of_hasData hquery ht, interpret_of_hasData hquery' hu,
      Answer.selectsAlike_ofData hsame h⟩

/-- Ways and whether they are open. -/
def ways : Table where
  columns := ["way", "open"]
  rows :=
    [[("way", .text "ΟΔΟΣ"), ("open", .boolean true)],
      [("way", .text "İz"), ("open", .absent)],
      [("way", .text "Mews"), ("open", .text "Yes"), ("note", .text "new")]]
  name := some "ways"

/-- The same ways in letters of another case, and in cells of other kinds. -/
def shoutedWays : Table where
  columns := ["way", "open"]
  rows :=
    [[("way", .text "οδος"), ("open", .text "TRUE")],
      [("open", .text ""), ("way", .text "i̇Z")],
      [("way", .text "MEWS"), ("open", .text "YES")]]
  name := none

theorem interpret_letterCase_ways :
    HasWord " Show OPEN" ∧ lowercase (stripped " Show OPEN") = lowercase (stripped "show open ") ∧
      ways.SameLower shoutedWays ∧
      ∃ a b, interpret {} (some " Show OPEN") (some ways) = .ok a ∧
        interpret {} (some "show open ") (some shoutedWays) = .ok b ∧ a.SelectsAlike b := by
  have hquery : HasWord " Show OPEN" := ⟨'S', by decide, by decide⟩
  have hsame : lowercase (stripped " Show OPEN") = lowercase (stripped "show open ") := by
    decide +kernel
  have htables : ways.SameLower shoutedWays := by decide +kernel
  exact ⟨hquery, hsame, htables, interpret_letterCase {} hquery hsame htables⟩

end TableQuery
