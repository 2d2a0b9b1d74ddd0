/-
TableQuery/Proofs/Answer/Selection.lean

Which rows an answer holds, said of the rows and the question alone.

Three flags, two resolutions and a choice between search and filter decide
whether a row is selected.  `Selected` says the same as four conditions, each
of which applies in its own case and asks nothing in the others; where none
applies every row is selected.

Main result: `interpret_selects`.  A question with a word, asked about a table
with a column and a row, has an answer, and the rows of the answer are those
of the table at positions without repetition, exactly at those whose rows are
`Selected`.  Selecting keeps the order, so the positions increase unless a
sort was asked for and a column named.
-/
import TableQuery.Proofs.Answer.Reading
import TableQuery.Proofs.Question.Meaning

namespace TableQuery

open Text

/-! ### The condition -/

/-- What a question asks of the rows that it selects. -/
structure Selected (vocabulary : Vocabulary) (question : String) (columns : List String)
    (row : Row) : Prop where
  /-- A question without a keyword is a text to search for. -/
  search : ¬ Mentions question vocabulary.filterKeywords →
    ¬ Mentions question vocabulary.sortKeywords →
    ¬ Mentions question vocabulary.summarizeKeywords →
    ∃ c ∈ columns, Occurs question (row.lowerText c)
  /-- A value is looked for in the column that is named. -/
  valueThere : Mentions question vocabulary.filterKeywords →
    ∀ value, NamesValue question vocabulary.filterValues value →
    ∀ c, NamesColumn question columns c → row.lowerText c = lowercase value
  /-- Where no column is named, a value may stand in any. -/
  valueAnywhere : Mentions question vocabulary.filterKeywords →
    ∀ value, NamesValue question vocabulary.filterValues value →
    (¬ ∃ c, NamesColumn question columns c) → ∃ c ∈ columns, row.lowerText c = lowercase value
  /-- Where no value is named, the column that is named must hold something. -/
  filled : Mentions question vocabulary.filterKeywords →
    (¬ ∃ value, NamesValue question vocabulary.filterValues value) →
    ∀ c, NamesColumn question columns c → row.cell c ≠ .absent ∧ row.cell c ≠ .text ""

/-! ### The tests on a row -/

theorem Row.mentions_iff {row : Row} {columns : List String} {term : String} :
    row.mentions columns term = true ↔ ∃ c ∈ columns, Occurs term (row.lowerText c) := by
  rw [mentions, List.any_eq_true]
  simp only [contains_iff]

theorem Cell.isEmpty_eq_false_iff {c : Cell} :
    c.isEmpty = false ↔ c ≠ .absent ∧ c ≠ .text "" := by
  cases c with
  | text s => simp [isEmpty]
  | number a => simp [isEmpty]
  | boolean b => simp [isEmpty]
  | absent => simp [isEmpty]

theorem RowFilter.keeps_valueAnywhere {columns : List String} {row : Row} {value : String} :
    (⟨none, some value⟩ : RowFilter).keeps columns row = true ↔
      ∃ c ∈ columns, row.lowerText c = lowercase value := by
  rw [keeps, List.any_eq_true]
  simp only [decide_eq_true_eq]

theorem RowFilter.keeps_filled {columns : List String} {row : Row} {c : String} :
    (⟨some c, none⟩ : RowFilter).keeps columns row = true ↔
      row.cell c ≠ .absent ∧ row.cell c ≠ .text "" := by
  rw [keeps, Bool.not_eq_true', Cell.isEmpty_eq_false_iff]

theorem Intent.isPlainSearch_classify_iff {vocabulary : Vocabulary} {question : String} :
    (classify vocabulary question).isPlainSearch = true ↔
      ¬ Mentions question vocabulary.filterKeywords ∧
        ¬ Mentions question vocabulary.sortKeywords ∧
        ¬ Mentions question vocabulary.summarizeKeywords := by
  rw [isPlainSearch, Bool.not_eq_true', Bool.or_eq_false_iff, Bool.or_eq_false_iff, and_assoc,
    ← mentionsAny_iff, ← mentionsAny_iff, ← mentionsAny_iff]
  simp only [Bool.not_eq_true]
  rfl

/-! ### The test decides the condition -/

namespace Answer

variable {vocabulary : Vocabulary} {question : String} {columns : List String} {row : Row}

theorem selects_plain (h : (Intent.classify vocabulary question).isPlainSearch = true) :
    selects vocabulary question columns row = true ↔
      Selected vocabulary question columns row := by
  rw [selects, if_pos h, Row.mentions_iff]
  obtain ⟨hfilter, hsort, hsummarize⟩ := Intent.isPlainSearch_classify_iff.1 h
  constructor
  · intro hsearch
    exact ⟨fun _ _ _ => hsearch, fun hf => absurd hf hfilter, fun hf => absurd hf hfilter,
      fun hf => absurd hf hfilter⟩
  · intro hselected
    exact hselected.search hfilter hsort hsummarize

/-- A keyword without a filter selects every row. -/
theorem selects_unfiltered (h : ¬ (Intent.classify vocabulary question).isPlainSearch = true)
    (hf : ¬ Mentions question vocabulary.filterKeywords) :
    selects vocabulary question columns row = true ↔
      Selected vocabulary question columns row := by
  have hnone : filterOf vocabulary question columns = none :=
    if_neg (mt mentionsAny_iff.1 hf)
  rw [selects, if_neg h, hnone]
  refine iff_of_true rfl ⟨?_, fun hf' => absurd hf' hf, fun hf' => absurd hf' hf,
    fun hf' => absurd hf' hf⟩
  intro _ hsort hsummarize
  exact absurd (Intent.isPlainSearch_classify_iff.2 ⟨hf, hsort, hsummarize⟩) h

/-- A filter keyword: one case for each outcome of the two resolutions. -/
theorem selects_filtered (hf : Mentions question vocabulary.filterKeywords) :
    selects vocabulary question columns row = true ↔
      Selected vocabulary question columns row := by
  have hplain : ¬ (Intent.classify vocabulary question).isPlainSearch = true :=
    fun h => (Intent.isPlainSearch_classify_iff.1 h).1 hf
  have hresolve : filterOf vocabulary question columns
      = resolveFilter? vocabulary question columns := if_pos (mentionsAny_iff.2 hf)
  rw [selects, if_neg hplain, hresolve, resolveFilter?]
  rcases hc : matchColumn? question columns with - | c
  · have hcolumn := matchColumn?_eq_none_iff.1 hc
    rcases hv : matchValue? question vocabulary.filterValues with - | value
    · -- neither: every row
      have hvalue := matchValue?_eq_none_iff.1 hv
      exact iff_of_true rfl ⟨fun h => absurd hf h, fun _ v h => absurd ⟨v, h⟩ hvalue,
        fun _ v h => absurd ⟨v, h⟩ hvalue, fun _ _ c h => absurd ⟨c, h⟩ hcolumn⟩
    · -- a value: in any column
      have hvalue := matchValue?_eq_some_iff.1 hv
      refine RowFilter.keeps_valueAnywhere.trans ⟨fun hkeeps => ?_, fun hselected => ?_⟩
      · refine ⟨fun h => absurd hf h, fun _ _ _ c h => absurd ⟨c, h⟩ hcolumn, fun _ v h _ => ?_,
          fun _ h => absurd ⟨value, hvalue⟩ h⟩
        rw [← matchValue?_eq_some_iff, hv] at h
        obtain rfl := Option.some.inj h
        exact hkeeps
      · exact hselected.valueAnywhere hf value hvalue hcolumn
  · have hcolumn := matchColumn?_eq_some_iff.1 hc
    -- the column that is named is `c`
    have honly : ∀ d, NamesColumn question columns d → d = c := by
      intro d hd
      rw [← matchColumn?_eq_some_iff, hc] at hd
      exact (Option.some.inj hd).symm
    rcases hv : matchValue? question vocabulary.filterValues with - | value
    · -- a column: it must hold something
      have hvalue := matchValue?_eq_none_iff.1 hv
      refine RowFilter.keeps_filled.trans ⟨fun hkeeps => ?_, fun hselected => ?_⟩
      · refine ⟨fun h => absurd hf h, fun _ v h => absurd ⟨v, h⟩ hvalue,
          fun _ v h => absurd ⟨v, h⟩ hvalue, fun _ _ d hd => ?_⟩
        rw [honly d hd]
        exact hkeeps
      · exact hselected.filled hf hvalue c hcolumn
    · -- both: the value in the column
      have hvalue := matchValue?_eq_some_iff.1 hv
      refine decide_eq_true_iff.trans ⟨fun hkeeps => ?_, fun hselected => ?_⟩
      · refine ⟨fun h => absurd hf h, fun _ v h d hd => ?_, fun _ _ _ h => absurd ⟨c, hcolumn⟩ h,
          fun _ h => absurd ⟨value, hvalue⟩ h⟩
        rw [← matchValue?_eq_some_iff, hv] at h
        obtain rfl := Option.some.inj h
        rw [honly d hd]
        exact hkeeps
      · exact hselected.valueThere hf value hvalue c hcolumn

/-- Whether a row is selected can be said of the row and the question. -/
theorem selects_iff :
    selects vocabulary question columns row = true ↔
      Selected vocabulary question columns row := by
  by_cases hplain : (Intent.classify vocabulary question).isPlainSearch = true
  · exact selects_plain hplain
  · by_cases hf : Mentions question vocabulary.filterKeywords
    · exact selects_filtered hf
    · exact selects_unfiltered hplain hf

/-! ### The rows of an answer -/

/-- The positions of the rows of an answer, in the order of the rows. -/
def positions (a : Answer) : List Nat := a.rows.map (·.position)

/-- The rows of an answer are the rows of a table that a question selects. -/
structure SelectedFrom (a : Answer) (vocabulary : Vocabulary) (question : String) (t : Table) :
    Prop where
  /-- Each row is the one of the table at its position. -/
  placed : ∀ r ∈ a.rows, t.rows[r.position]? = some r.row
  /-- No position is there twice. -/
  nodup : a.positions.Nodup
  /-- A position is there exactly if the question selects its row. -/
  mem_iff : ∀ i, i ∈ a.positions ↔
    ∃ row, t.rows[i]? = some row ∧ Selected vocabulary question t.columns row
  /-- Without a sort the positions increase. -/
  increasing : (¬ Mentions question vocabulary.sortKeywords ∨
    ¬ ∃ c, NamesColumn question t.columns c) → a.positions.Pairwise (· < ·)

/-- Selecting rows of a table leaves their positions increasing. -/
theorem pairwise_position_filter (t : Table) (test : PlacedRow → Bool) :
    ((t.placedRows.filter test).map (·.position)).Pairwise (· < ·) := by
  have hsub : ((t.placedRows.filter test).map (·.position)).Sublist (List.range t.rows.length) := by
    rw [← t.map_position_placedRows]
    exact List.filter_sublist.map _
  exact List.pairwise_lt_range.sublist hsub

theorem sortOf_eq_none (h : ¬ Mentions question vocabulary.sortKeywords ∨
    ¬ ∃ c, NamesColumn question columns c) : sortOf vocabulary question columns = none := by
  rcases h with hsort | hcolumn
  · exact if_neg (mt mentionsAny_iff.1 hsort)
  · rw [sortOf, resolveSort?, matchColumn?_eq_none_iff.2 hcolumn, Option.map_none, ite_self]

theorem selectedFrom_ofData (settings : QuerySettings) (query : String) (t : Table) :
    (ofData settings query t).SelectedFrom settings.vocabulary (lowercase query) t := by
  -- before sorting, the rows are a filtered list; sorting permutes them
  let test : PlacedRow → Bool :=
    fun r => selects settings.vocabulary (lowercase query) t.columns r.row
  have hrows : (ofData settings query t).rows.Perm (t.placedRows.filter test) := by
    rw [rows_ofData]
    exact SortOrder.apply_perm _ _
  refine ⟨?_, ?_, ?_, ?_⟩
  · intro r hr
    exact Table.mem_placedRows.1 (List.mem_filter.1 (hrows.mem_iff.1 hr)).1
  · refine (hrows.map _).nodup_iff.2 ?_
    exact (pairwise_position_filter t test).imp Nat.ne_of_lt
  · intro i
    rw [positions, (hrows.map _).mem_iff, List.mem_map]
    constructor
    · rintro ⟨r, hr, rfl⟩
      obtain ⟨hplaced, htest⟩ := List.mem_filter.1 hr
      exact ⟨r.row, Table.mem_placedRows.1 hplaced, selects_iff.1 htest⟩
    · rintro ⟨row, hrow, hselected⟩
      exact ⟨⟨i, row⟩, List.mem_filter.2 ⟨Table.mem_placedRows.2 hrow, selects_iff.2 hselected⟩, rfl⟩
  · intro h
    rw [positions, rows_ofData, sortOf_eq_none h]
    exact pairwise_position_filter t test

end Answer

/-- **An answer holds exactly the selected rows.**  A question with a word,
asked about a table with a column and a row, has an answer; its rows are
those of the table that the question selects, each once, and in the order of
the table unless a sort was asked for and a column named. -/
theorem interpret_selects {settings : QuerySettings} {query : String} {t : Table}
    (hquery : HasWord query) (hcolumns : t.columns ≠ []) (hrows : t.rows ≠ []) :
    ∃ a, interpret settings (some query) (some t) = .ok a ∧
      a.SelectedFrom settings.vocabulary (lowercase (stripped query)) t :=
  ⟨_, interpret_of_hasData hquery (Table.hasData_iff.2 ⟨hcolumns, hrows⟩),
    Answer.selectedFrom_ofData settings (stripped query) t⟩

/-- Two parts and their state. -/
def stock : Table where
  columns := ["item", "state"]
  rows :=
    [[("item", .text "bolt"), ("state", .text "OK")],
      [("item", .text "nut"), ("state", .text "Fail")]]
  name := some "stock"

theorem interpret_selects_stock :
    HasWord " Show state OK " ∧ stock.columns ≠ [] ∧ stock.rows ≠ [] ∧
      ∃ a, interpret {} (some " Show state OK ") (some stock) = .ok a ∧
        a.SelectedFrom {} (lowercase (stripped " Show state OK ")) stock := by
  have hquery : HasWord " Show state OK " := ⟨'S', by decide, by decide⟩
  have hcolumns : stock.columns ≠ [] := by decide
  have hrows : stock.rows ≠ [] := by decide
  exact ⟨hquery, hcolumns, hrows, interpret_selects hquery hcolumns hrows⟩

end TableQuery
