/-
TableQuery/Proofs/Answer/Checked.lean

Answers with every step checked.

A question is refused if it has no word, and that is the only way in which it
can come to nothing.  Searching, filtering and sorting read the texts and the
numbers of cells, and a summary is worked out of more steps, some of which have
no result on some arguments (`Proofs/Summary/Checked.lean`).  An answer worked
out of these steps stops at the first fault (`Checked.interpret`); there is
none, whatever the question, the table and the settings are, so what comes out
is what `interpret` gives (`Checked.interpret_eq`).

The text of the summary then shows which of the early ends was taken: there was
no data, or nothing to summarize (`Answer.Summarized`).

Main result: `interpret_faultless`.
-/
import TableQuery.Proofs.Answer.Reading
import TableQuery.Proofs.Question.Meaning
import TableQuery.Proofs.Summary.Checked
import TableQuery.Proofs.Summary.Lines
import TableQuery.Proofs.Text.Gaps

namespace TableQuery

open Text

namespace Checked

/-! ### Selecting and sorting rows -/

/-- The lower-cased text of a row's cell. -/
def lowerText (row : Row) (column : String) : Result String := do
  return lowercase (← plainText (row.cell column))

/-- Whether some column's text contains a lower-cased term. -/
def mentions (columns : List String) (term : String) (row : Row) : Result Bool :=
  columns.anyM fun column => do return contains (← lowerText row column) term

/-- Whether a filter keeps a row. -/
def keeps (f : RowFilter) (columns : List String) (row : Row) : Result Bool :=
  match f.value, f.column with
  | some value, some column => do return (← lowerText row column) = lowercase value
  | some value, none =>
    columns.anyM fun column => do return (← lowerText row column) = lowercase value
  | none, some column => return !(row.cell column).isEmpty
  | none, none => return true

/-- The rows that a filter keeps; no filter keeps all. -/
def filterRows (f : Option RowFilter) (columns : List String) (rows : List PlacedRow) :
    Result (List PlacedRow) :=
  match f with
  | none => return rows
  | some f => rows.filterM (keeps f columns ·.row)

/-- The key of a cell. -/
def key (c : Cell) : Result Cell.Key := do
  return ⟨← number? c, ← plainText c⟩

/-- The rows sorted; no sort leaves them as they are. -/
def sortRows (s : Option SortOrder) (rows : List PlacedRow) : Result (List PlacedRow) :=
  match s with
  | none => return rows
  | some s => do
    let keyed ← rows.mapM fun r => do return (← key (r.row.cell s.column), r)
    return (arrange (fun a b => s.before a.1 b.1) keyed).map (·.2)

section Rows

variable (columns : List String) (rows : List PlacedRow)

theorem lowerText_eq (row : Row) (column : String) :
    lowerText row column = .ok (row.lowerText column) := by
  rw [lowerText, plainText_eq]
  rfl

theorem mentions_eq (term : String) (row : Row) :
    mentions columns term row = .ok (row.mentions columns term) := by
  refine anyM_ok fun column => ?_
  rw [lowerText_eq]
  rfl

theorem keeps_eq (f : RowFilter) (row : Row) : keeps f columns row = .ok (f.keeps columns row) := by
  obtain ⟨column, value⟩ := f
  -- a filter has a column and a value, one of them, or neither; only texts are compared
  cases value with
  | none =>
    cases column with
    | none => rfl
    | some column => rfl
  | some value =>
    cases column with
    | none =>
      refine anyM_ok fun column => ?_
      rw [lowerText_eq]
      rfl
    | some column =>
      simp only [keeps, lowerText_eq, ok_bind]
      rfl

theorem filterRows_eq (f : Option RowFilter) :
    filterRows f columns rows = .ok (RowFilter.apply f columns rows) := by
  cases f with
  | none => rfl
  | some f => exact filterM_ok fun r => keeps_eq columns f r.row

theorem key_eq (c : Cell) : key c = .ok c.key := by
  rw [key, number?_eq, plainText_eq]
  rfl

theorem sortRows_eq (s : Option SortOrder) : sortRows s rows = .ok (SortOrder.apply s rows) := by
  cases s with
  | none => rfl
  | some s =>
    have hkeyed : rows.mapM (fun r => do return (← key (r.row.cell s.column), r))
        = (.ok (rows.map fun r => ((r.row.cell s.column).key, r)) : Result _) := by
      refine mapM_ok fun r _ => ?_
      rw [key_eq]
      rfl
    rw [sortRows, hkeyed]
    rfl

end Rows

/-! ### Answers -/

/-- The answer to a question, given stripped, about a table with data. -/
def answer (settings : QuerySettings) (query : String) (table : Table) : Result Answer := do
  let question := lowercase query
  let vocabulary := settings.vocabulary
  let columns := table.columns
  let intent := Intent.classify vocabulary question
  let filter := if intent.filter then resolveFilter? vocabulary question columns else none
  let sort := if intent.sort then resolveSort? vocabulary question columns else none
  let selected ←
    if intent.isPlainSearch then table.placedRows.filterM (mentions columns question ·.row)
    else filterRows filter columns table.placedRows
  let rows ← sortRows sort selected
  let summary ← summary settings.limits columns intent.summarize (rows.map (·.row))
  return { query, columns, intent, filter, sort, rows, summary := some summary }

/-- Answers a question about a table, if there is one.  A question is refused
before anything else is looked at. -/
def interpret (settings : QuerySettings) (query : Option String) (table : Option Table) :
    Result (Except QuestionError Answer) :=
  match strippedQuestion? query with
  | none => return .error .blank
  | some query =>
    match table with
    | none => return .ok (Answer.withoutData query none)
    | some t =>
      if t.hasData then .ok <$> answer settings query t
      else return .ok (Answer.withoutData query (some t))

theorem answer_eq (settings : QuerySettings) (query : String) (t : Table) :
    answer settings query t = .ok (Answer.ofData settings query t) := by
  have hsearch : t.placedRows.filterM (fun r => mentions t.columns (lowercase query) r.row)
      = .ok (searchRows t.columns query t.placedRows) :=
    filterM_ok fun r => mentions_eq t.columns (lowercase query) r.row
  simp only [answer, hsearch, filterRows_eq]
  rw [Answer.ofData]
  -- a search and a filter select in their own ways; what follows is the same
  by_cases hplain : (Intent.classify settings.vocabulary (lowercase query)).isPlainSearch
  · simp only [if_pos hplain, ok_bind, sortRows_eq, summary_eq]
    rfl
  · simp only [if_neg hplain, ok_bind, sortRows_eq, summary_eq]
    rfl

/-- **No step of an answer is without a result.** -/
theorem interpret_eq (settings : QuerySettings) (query : Option String) (table : Option Table) :
    interpret settings query table = .ok (TableQuery.interpret settings query table) := by
  rw [interpret, TableQuery.interpret]
  rcases strippedQuestion? query with - | question
  · rfl
  · rcases table with - | t
    · rfl
    · by_cases ht : t.hasData = true
      · simp only [if_pos ht, answer_eq]
        rfl
      · simp only [if_neg ht]
        rfl

end Checked

/-! ### The text of a summary -/

/-- Joined texts start with the first of them. -/
theorem isPrefix_intercalate_cons (sep first : List Char) (others : List (List Char)) :
    first <+: sep.intercalate (first :: others) := by
  cases others with
  | nil =>
    rw [List.intercalate_singleton]
  | cons second others =>
    rw [List.intercalate_cons_cons, List.append_assoc]
    exact List.prefix_append _ _

namespace Summary

variable {limits : Limits} {columns : List String} {requested : Bool} {rows : List Row}

theorem ofRows_of_not_made (h : ¬ (rows ≠ [] ∧ isDue limits rows.length requested = true)) :
    ofRows limits columns requested rows = silent rows.length := by
  rw [ofRows, if_pos (not_not.1 (mt isMade_iff.1 h))]

/-- The text of a summary that is made starts with the number of rows. -/
theorem head?_text (columns : List String)
    (h : rows ≠ [] ∧ isDue limits rows.length requested = true) :
    (ofRows limits columns requested rows).text.toList.head? = some 'T' := by
  have htotal : (totalLine rows.length).toList
      <+: (ofRows limits columns requested rows).text.toList := by
    rw [ofRows, if_neg (isMade_iff.2 h), text, String.toList_intercalate]
    exact isPrefix_intercalate_cons _ _ _
  obtain ⟨rest, hrest⟩ := htotal
  rw [← hrest, totalLine, String.toList_append]
  rfl

theorem text_eq_empty_iff (columns : List String) :
    (ofRows limits columns requested rows).text = "" ↔
      ¬ (rows ≠ [] ∧ isDue limits rows.length requested = true) := by
  constructor
  · intro hempty hmade
    have hhead := head?_text columns hmade
    rw [hempty] at hhead
    cases hhead
  · intro hmade
    rw [ofRows_of_not_made hmade]
    rfl

/-- No summary reads as if there were no data. -/
theorem text_ne_noData : (ofRows limits columns requested rows).text ≠ "No data available" := by
  intro htext
  by_cases hmade : rows ≠ [] ∧ isDue limits rows.length requested = true
  · have hhead := head?_text columns hmade
    rw [htext] at hhead
    exact absurd hhead (by decide)
  · have hempty := (text_eq_empty_iff columns).2 hmade
    rw [htext] at hempty
    exact absurd hempty (by decide)

theorem isDue_eq_false_iff {n : Nat} :
    isDue limits n requested = false ↔ requested = false ∧ (n : Int) ≤ limits.summaryRows := by
  rw [isDue, Bool.or_eq_false_iff, decide_eq_false_iff_not, not_lt]

/-- What is listed of a column is a share of at least one row. -/
theorem percentage_of_mem_categorical {entry : String × List Frequency}
    (hentry : entry ∈ (ofRows limits columns requested rows).categorical) {f : Frequency}
    (hf : f ∈ entry.2) :
    1 ≤ rows.length ∧ Checked.percentage f.count rows.length = .ok f.percentage := by
  by_cases hmade : rows ≠ [] ∧ isDue limits rows.length requested = true
  · have hd := ((mem_categorical_iff hmade.1 hmade.2).1 hentry).2
    rw [distribution?_eq_listed] at hd
    split at hd
    · rw [← Option.some.inj hd] at hf
      obtain ⟨htext, hcount, hshare⟩ := (listsTop_mostFrequent _ _).counted f hf
      rw [hshare, hcount, length_textsOf]
      exact Checked.percentage_count rows entry.1 htext
    · cases hd
  · rw [ofRows_of_not_made hmade] at hentry
    cases hentry

end Summary

/-! ### What comes of a question -/

/-- **Stripping a question hides no word from it**, if the word itself has no
white space around it. -/
theorem occurs_stripped_iff {word : String} (hword : stripped word = word) (question : String) :
    Occurs word (lowercase (stripped question)) ↔ Occurs word (lowercase question) := by
  have hchars : strip word.toList = word.toList := by
    rw [← String.toList_inj, stripped, String.toList_ofList] at hword
    exact hword
  have hfirst : ∀ c ∈ word.toList.head?, isBlank c = false := by
    rw [← hchars]
    exact isBlank_of_mem_head?_strip
  have hlast : ∀ c ∈ word.toList.getLast?, isBlank c = false := by
    rw [← hchars]
    exact isBlank_of_mem_getLast?_strip
  -- the question in lower case is the stripped one in lower case, between its gaps
  obtain ⟨front, back, hfront, hback, hquestion⟩ := exists_gaps question.toList
  have hlower : lower question.toList = front ++ (lower (strip question.toList) ++ back) := by
    rw [← lower_append_gap hback, ← lower_gap_append hfront, ← List.append_assoc, ← hquestion]
  rw [Occurs, Occurs, lowercase, lowercase, stripped, String.toList_ofList, String.toList_ofList,
    String.toList_ofList, hlower, infix_gap_append_iff hfirst hfront,
    infix_append_gap_iff hlast hback]

/-- A question that asks something: it is there, and some character of it is no
white space. -/
def Asks (query : Option String) : Prop := ∃ q, query = some q ∧ HasWord q

/-- There is no table, or one without rows or without columns. -/
def NoData (table : Option Table) : Prop :=
  table = none ∨ ∃ t, table = some t ∧ (t.rows = [] ∨ t.columns = [])

/-- What the summary of an answer says, given the question in lower case. -/
structure Answer.Summarized (a : Answer) (settings : QuerySettings) (question : String)
    (table : Option Table) : Prop where
  /-- Every average is a quotient by a count of at least one. -/
  averages : ∀ s, a.summary = some s → ∀ stats ∈ s.numeric,
    1 ≤ stats.count ∧ Checked.average stats.total stats.count = .ok stats.average
  /-- Every share is a quotient by a count of at least one row. -/
  shares : ∀ s, a.summary = some s → ∀ entry ∈ s.categorical, ∀ f ∈ entry.2,
    1 ≤ a.rowCount ∧ Checked.percentage f.count a.rowCount = .ok f.percentage
  /-- The text says that there is no data exactly if there is none. -/
  noData_iff : a.summaryText = "No data available" ↔ NoData table
  /-- With data there is no text exactly if there are no rows, or few of them and
  no word in the question that asks for a summary. -/
  empty_iff : ¬ NoData table → (a.summaryText = "" ↔
    a.rows = [] ∨ ¬ Mentions question settings.vocabulary.summarizeKeywords ∧
      (a.rowCount : Int) ≤ settings.limits.summaryRows)

theorem noData_some_iff {t : Table} : NoData (some t) ↔ t.hasData = false := by
  rw [← Bool.not_eq_true, Table.hasData_iff, not_and_or, not_ne_iff, not_ne_iff, or_comm]
  constructor
  · rintro (h | ⟨u, hu, h⟩)
    · cases h
    · obtain rfl := Option.some.inj hu
      exact h
  · exact fun h => .inr ⟨t, rfl, h⟩

theorem strippedQuestion?_eq_none {query : Option String} (h : ¬ Asks query) :
    strippedQuestion? query = none := by
  rcases query with - | q
  · rfl
  · have hblank : stripped q = "" := by
      by_contra hword
      exact h ⟨q, rfl, stripped_ne_empty_iff.1 hword⟩
    exact if_pos hblank

section Answers

variable {settings : QuerySettings} {query : Option String} {table : Option Table}

/-- An answer where there is no data has no numbers, and its text says why. -/
theorem Answer.summarized_withoutData (h : NoData table) (query question : String) :
    (withoutData query table).Summarized settings question table where
  averages := fun _ hs => nomatch hs
  shares := fun _ hs => nomatch hs
  noData_iff := iff_of_true rfl h
  empty_iff := fun hdata => absurd h hdata

theorem Answer.summarized_ofData {t : Table} (h : t.hasData = true) (query : String) :
    (ofData settings query t).Summarized settings (lowercase query) (some t) where
  averages := by
    intro s hs stats hstats
    obtain rfl := Option.some.inj hs
    -- only columns with a number get statistics, so the divisor is not zero
    obtain ⟨column, hcolumn⟩ := exists_columnStats?_of_mem hstats
    have hcount := (columnStats?_describes hcolumn).count_pos
    exact ⟨hcount, Checked.average_eq hcount _⟩
  shares := by
    intro s hs entry hentry f hf
    obtain rfl := Option.some.inj hs
    have hshare := Summary.percentage_of_mem_categorical hentry hf
    rwa [List.length_map] at hshare
  noData_iff := by
    refine iff_of_false Summary.text_ne_noData ?_
    rw [noData_some_iff, h]
    exact Bool.noConfusion
  empty_iff := by
    intro _
    show (Summary.ofRows _ _ _ _).text = "" ↔ _
    -- the text is empty if no line is due and the question mentions no column
    rw [Summary.text_eq_empty_iff, not_and_or, not_ne_iff, List.map_eq_nil_iff, Bool.not_eq_true,
      Summary.isDue_eq_false_iff, List.length_map, ← mentionsAny_iff, Bool.not_eq_true]
    rfl

/-- **A question is refused exactly if it asks nothing**, whatever the table. -/
theorem interpret_eq_error_iff {e : QuestionError} :
    interpret settings query table = .error e ↔ e = .blank ∧ ¬ Asks query := by
  constructor
  · intro h
    refine ⟨by cases e; rfl, ?_⟩
    rintro ⟨q, rfl, hq⟩
    obtain ⟨a, ha⟩ := exists_interpret_eq_ok hq settings table
    rw [ha] at h
    cases h
  · rintro ⟨rfl, hasks⟩
    rw [interpret, strippedQuestion?_eq_none hasks]

end Answers

/-- **A question is answered unless it is blank.**  No step of an answer is
without a result, whatever the question, the table and the settings are.  The
question is refused exactly if it is missing or has nothing but white space, for
the same reason whether or not there is a table; otherwise there is an answer.
Every average and every share in it is a quotient by a count of at least one.
The text of its summary says that there is no data exactly if the table is
missing or has no rows or no columns, and otherwise is empty exactly if the
answer has no rows, or not more than the limit and no word that asks for a
summary occurs in the question.  Words are looked for in the question stripped
and in lower case; for a word without white space around it the stripping makes
no difference. -/
theorem interpret_faultless (settings : QuerySettings) (query : Option String)
    (table : Option Table) :
    Checked.interpret settings query table = .ok (interpret settings query table) ∧
      (∀ e, interpret settings query table = .error e ↔ e = .blank ∧ ¬ Asks query) ∧
      ∀ q, query = some q → HasWord q →
        (∃ a, interpret settings query table = .ok a ∧
          a.Summarized settings (lowercase (stripped q)) table) ∧
        ∀ word, stripped word = word →
          (Occurs word (lowercase (stripped q)) ↔ Occurs word (lowercase q)) := by
  refine ⟨Checked.interpret_eq settings query table, fun e => interpret_eq_error_iff, ?_⟩
  rintro q rfl hq
  refine ⟨?_, fun word hword => occurs_stripped_iff hword q⟩
  -- no table, one without data, one with data: the first two give the text about no data
  rcases table with - | t
  · obtain ⟨a, ha⟩ := exists_interpret_eq_ok hq settings none
    obtain ⟨question, rfl⟩ | ⟨_, t, ht, -⟩ := interpret_cases ha
    · exact ⟨_, ha, Answer.summarized_withoutData (.inl rfl) _ _⟩
    · cases ht
  · cases hdata : t.hasData with
    | false =>
      exact ⟨_, interpret_of_noData hq hdata,
        Answer.summarized_withoutData (noData_some_iff.2 hdata) _ _⟩
    | true => exact ⟨_, interpret_of_hasData hq hdata, Answer.summarized_ofData hdata _⟩

end TableQuery
