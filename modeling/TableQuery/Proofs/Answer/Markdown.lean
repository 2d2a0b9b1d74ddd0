/-
TableQuery/Proofs/Answer/Markdown.lean

The table of an answer, read back from its markdown.

The table stands in the markdown of an answer between the title and the
summary (`Answer.markdown_eq`).  A reader that divides it at line feeds, and
each line at its bars, gets every shown text back, whatever bars and
backslashes it holds.  The one thing that the table does not protect is the
line feed itself: a cell that holds one breaks its row into two lines
(`not_readsBack_addresses`).  So the main result is about columns and shown
cells without line feeds, and the hypothesis is consumed at one place, where
the lines of the table are divided again (`splitOn_markdownTable`).

Main result: `Answer.markdown_readsBack`.
-/
import Mathlib.Data.List.Forall2
import TableQuery.Proofs.Answer.Reading
import TableQuery.Proofs.Number.Notation
import TableQuery.Proofs.Text.Bars

namespace TableQuery

open Text

/-! ### Lines without line feeds -/

/-- A line feed stands in no whole number. -/
theorem not_mem_toList_integerText (n : Int) : '\n' ∉ (integerText n).toList :=
  fun h => absurd (isBlank_of_mem_integerText h) (by decide)

/-- Lines that are joined are divided again, if none of them holds a line
feed. -/
theorem splitOn_intercalate_lines {lines : List String} (hne : lines ≠ [])
    (h : ∀ line ∈ lines, '\n' ∉ line.toList) :
    ("\n".intercalate lines).toList.splitOn '\n' = lines.map String.toList := by
  rw [String.toList_intercalate]
  refine List.splitOn_intercalate '\n' ?_ fun hnil => hne (List.map_eq_nil_iff.1 hnil)
  intro l hl
  obtain ⟨line, hline, rfl⟩ := List.mem_map.1 hl
  exact h line hline

/-- Neighbouring parts of a text can be joined first. -/
theorem intercalate_append_intercalate (sep : String) {xs ys : List String} (hx : xs ≠ [])
    (hy : ys ≠ []) (zs : List String) :
    sep.intercalate (xs ++ ys ++ zs) = sep.intercalate (xs ++ [sep.intercalate ys] ++ zs) := by
  have hjoin : sep.intercalate (xs ++ ys) = sep.intercalate (xs ++ [sep.intercalate ys]) := by
    rw [String.intercalate_append_of_ne_nil hx hy,
      String.intercalate_append_of_ne_nil hx (List.cons_ne_nil _ _), String.intercalate_singleton]
  by_cases hz : zs = []
  · rw [hz, List.append_nil, List.append_nil, hjoin]
  · rw [String.intercalate_append_of_ne_nil (List.append_ne_nil_of_left_ne_nil hx _) hz,
      String.intercalate_append_of_ne_nil (List.append_ne_nil_of_left_ne_nil hx _) hz, hjoin]

namespace Answer

variable (a : Answer) (maxRows : Nat)

/-! ### The parts of the markdown -/

/-- The line above the table. -/
def markdownTitle : String := "**" ++ a.header ++ "** (" ++ a.describe ++ ")"

/-- The table. -/
def markdownTable : String := "\n".intercalate (a.tableLines maxRows escapeBars)

/-- The lines below the table. -/
def markdownSummary : List String :=
  if a.summaryText = "" then [] else ["", "**Summary**", ""] ++ a.summaryBullets

/-- The markdown of an answer, line by line. -/
theorem markdown_eq_lines (hdata : a.noData = false) (hrows : a.rows ≠ []) (limit : Int) :
    a.markdown limit = "\n".intercalate
      ([a.markdownTitle, ""] ++ a.tableLines limit escapeBars ++ a.markdownSummary) := by
  have hempty : ¬ a.rows.isEmpty = true := fun h => hrows (List.isEmpty_iff.1 h)
  rw [markdown, if_neg (ne_true_of_eq_false hdata), if_neg hempty]
  rfl

/-- The markdown of an answer is its title, an empty line, its table, and the
summary. -/
theorem markdown_eq (hdata : a.noData = false) (hrows : a.rows ≠ []) :
    a.markdown maxRows = "\n".intercalate
      ([a.markdownTitle, ""] ++ [a.markdownTable maxRows] ++ a.markdownSummary) := by
  have htable : a.tableLines maxRows escapeBars ≠ [] := List.cons_ne_nil _ _
  rw [a.markdown_eq_lines hdata hrows, markdownTable,
    ← intercalate_append_intercalate "\n" (List.cons_ne_nil _ _) htable]

/-! ### The lines of the table -/

/-- The texts that a row shows, in the order of the columns. -/
def shownTexts (r : PlacedRow) : List String := a.columns.map fun c => (r.row.cell c).shown

/-- The line under the header is a row of dashes. -/
theorem separator_eq (h : a.columns ≠ []) :
    "|" ++ "|".intercalate (a.columns.map fun _ => " --- ") ++ "|"
      = tableLine ((a.columns.map fun _ => "---").map escapeBars) := by
  have hdashes : escapeBars "---" = "---" := by decide
  have hpieces : (a.columns.map fun _ => " --- ").map String.toList ≠ [] := by simpa using h
  have hfields : (a.columns.map fun _ => "---").map escapeBars ≠ [] := by simpa using h
  have hline := append_intercalate_append [] ['|'] hpieces
  rw [List.flatMap_map, List.flatMap_map] at hline
  rw [← String.toList_inj, toList_tableLine hfields, List.flatMap_map, List.flatMap_map, hdashes,
    String.toList_append, String.toList_append, String.toList_intercalate]
  exact congrArg ('|' :: ·) hline

/-- The note on the rows that are not shown. -/
def noteLines : List String :=
  if maxRows < a.rowCount then
    ["... " ++ integerText ((a.rowCount - maxRows : Nat) : Int) ++ " more rows"]
  else []

/-- The lines of the table, one after the other. -/
theorem tableLines_eq (h : a.columns ≠ []) :
    a.tableLines maxRows escapeBars
      = tableLine (a.columns.map escapeBars) ::
        tableLine ((a.columns.map fun _ => "---").map escapeBars) ::
        ((a.rows.take maxRows).map fun r => tableLine ((a.shownTexts r).map escapeBars)) ++
          a.noteLines maxRows := by
  have hnote : (if (maxRows : Int) < a.rowCount then
      ["... " ++ integerText (a.rowCount - maxRows) ++ " more rows"] else []) = a.noteLines maxRows := by
    rw [noteLines]
    -- the rows left out are counted with a sign, and the sign is never used
    by_cases hmore : maxRows < a.rowCount
    · rw [if_pos hmore, if_pos (Int.ofNat_lt.2 hmore), Int.ofNat_sub (Nat.le_of_lt hmore)]
    · rw [if_neg hmore, if_neg (mt Int.ofNat_lt.1 hmore)]
  have hrows : ∀ r, tableLine (a.columns.map fun c => escapeBars (r.row.cell c).shown)
      = tableLine ((a.shownTexts r).map escapeBars) := by
    intro r
    rw [shownTexts, List.map_map]
    rfl
  rw [tableLines, a.separator_eq h, hnote]
  simp only [hrows]
  rfl

/-! ### Reading back -/

/-- The table can be read back.  Divided at line feeds it has a header, a
separator, a line for each row that is shown and, if rows are left out, a note
of how many; header and row lines are read as the columns and as the texts of
the cells. -/
def ReadsBack : Prop :=
  ∃ header separator rows,
    (a.markdownTable maxRows).toList.splitOn '\n'
        = header :: separator :: (rows ++ (a.noteLines maxRows).map String.toList) ∧
      LineReads header a.columns ∧
      LineReads separator (a.columns.map fun _ => "---") ∧
      rows.length = min a.rowCount maxRows ∧
      List.Forall₂ (fun line r => LineReads line (a.shownTexts r)) rows (a.rows.take maxRows)

/-- A line of escaped texts holds a line feed only if one of the texts does. -/
theorem not_mem_toList_escapedLine {texts : List String} (hne : texts ≠ [])
    (h : ∀ text ∈ texts, '\n' ∉ text.toList) :
    '\n' ∉ (tableLine (texts.map escapeBars)).toList := by
  have hfields : texts.map escapeBars ≠ [] := fun hnil => hne (List.map_eq_nil_iff.1 hnil)
  refine not_mem_toList_tableLine (by decide) hfields fun field hfield => ?_
  obtain ⟨text, htext, rfl⟩ := List.mem_map.1 hfield
  exact not_mem_toList_escapeBars (by decide) (h text htext)

theorem not_mem_toList_of_mem_noteLines {line : String} (h : line ∈ a.noteLines maxRows) :
    '\n' ∉ line.toList := by
  rw [noteLines] at h
  split at h
  · obtain rfl := List.mem_singleton.1 h
    have hcount := not_mem_toList_integerText ((a.rowCount - maxRows : Nat) : Int)
    simp [hcount]
  · cases h

theorem splitOn_markdownTable (hcolumns : a.columns ≠ [])
    (hnames : ∀ c ∈ a.columns, '\n' ∉ c.toList)
    (hcells : ∀ r ∈ a.rows.take maxRows, ∀ text ∈ a.shownTexts r, '\n' ∉ text.toList) :
    (a.markdownTable maxRows).toList.splitOn '\n'
      = (a.tableLines maxRows escapeBars).map String.toList := by
  refine splitOn_intercalate_lines (List.cons_ne_nil _ _) ?_
  have hdashes : (a.columns.map fun _ => "---") ≠ [] := by simpa using hcolumns
  have htexts : ∀ r, a.shownTexts r ≠ [] := fun r => by simpa [shownTexts] using hcolumns
  rw [a.tableLines_eq maxRows hcolumns]
  -- header, dashes, rows and note: no line of them holds a line feed
  refine List.forall_mem_cons.2 ⟨not_mem_toList_escapedLine hcolumns hnames,
    List.forall_mem_cons.2 ⟨not_mem_toList_escapedLine hdashes ?_, ?_⟩⟩
  · intro text htext
    obtain ⟨c, -, rfl⟩ := List.mem_map.1 htext
    decide
  · intro line hline
    rcases List.mem_append.1 hline with hrow | hnote
    · obtain ⟨r, hr, rfl⟩ := List.mem_map.1 hrow
      exact not_mem_toList_escapedLine (htexts r) (hcells r hr)
    · exact a.not_mem_toList_of_mem_noteLines maxRows hnote

theorem readsBack (hcolumns : a.columns ≠ []) (hnames : ∀ c ∈ a.columns, '\n' ∉ c.toList)
    (hcells : ∀ r ∈ a.rows.take maxRows, ∀ text ∈ a.shownTexts r, '\n' ∉ text.toList) :
    a.ReadsBack maxRows := by
  have hdashes : (a.columns.map fun _ => "---") ≠ [] := by simpa using hcolumns
  have htexts : ∀ r, a.shownTexts r ≠ [] := fun r => by simpa [shownTexts] using hcolumns
  let rows := (a.rows.take maxRows).map fun r => tableLine ((a.shownTexts r).map escapeBars)
  -- the lines of the table are read back one by one: header, dashes and rows
  refine ⟨_, _, rows.map String.toList, ?_, lineReads_tableLine hcolumns,
    lineReads_tableLine hdashes, ?_, ?_⟩
  · rw [a.splitOn_markdownTable maxRows hcolumns hnames hcells, a.tableLines_eq maxRows hcolumns,
      ← List.map_append]
    rfl
  · rw [List.length_map, List.length_map, List.length_take, Nat.min_comm]
    rfl
  · rw [List.forall₂_map_left_iff, List.forall₂_map_left_iff]
    exact List.forall₂_same.2 fun r _ => lineReads_tableLine (htexts r)

/-- **The table of an answer can be read back from its markdown**, if neither
the columns nor the cells that are shown hold a line feed. -/
theorem markdown_readsBack (hcolumns : a.columns ≠ [])
    (hnames : ∀ c ∈ a.columns, '\n' ∉ c.toList)
    (hcells : ∀ r ∈ a.rows.take maxRows, ∀ text ∈ a.shownTexts r, '\n' ∉ text.toList) :
    (a.noData = false → a.rows ≠ [] →
      a.markdown maxRows = "\n".intercalate
        ([a.markdownTitle, ""] ++ [a.markdownTable maxRows] ++ a.markdownSummary)) ∧
      a.ReadsBack maxRows :=
  ⟨a.markdown_eq maxRows, a.readsBack maxRows hcolumns hnames hcells⟩

/-- An answer with bars and backslashes in its columns and cells. -/
def barred : Answer where
  query := "shelf"
  columns := ["a|b", "path\\"]
  intent := {}
  filter := none
  sort := none
  rows :=
    [⟨0, [("a|b", .text "x\\|"), ("path\\", .text "shelf\\")]⟩, ⟨2, [("path\\", .text "|shelf|")]⟩]
  summary := some (Summary.silent 2)

theorem markdown_readsBack_barred :
    barred.columns ≠ [] ∧ (∀ c ∈ barred.columns, '\n' ∉ c.toList) ∧
      (∀ r ∈ barred.rows.take 1, ∀ text ∈ barred.shownTexts r, '\n' ∉ text.toList) ∧
      barred.noData = false ∧ barred.rows ≠ [] ∧
      barred.markdown (1 : Nat) = "\n".intercalate
        ([barred.markdownTitle, ""] ++ [barred.markdownTable 1] ++ barred.markdownSummary) ∧
      barred.ReadsBack 1 := by
  have hcolumns : barred.columns ≠ [] := by decide
  have hnames : ∀ c ∈ barred.columns, '\n' ∉ c.toList := by decide
  have hcells : ∀ r ∈ barred.rows.take 1, ∀ text ∈ barred.shownTexts r, '\n' ∉ text.toList := by
    decide
  have hrows : barred.rows ≠ [] := List.cons_ne_nil _ _
  obtain ⟨hmarkdown, hreads⟩ := barred.markdown_readsBack 1 hcolumns hnames hcells
  exact ⟨hcolumns, hnames, hcells, rfl, hrows, hmarkdown rfl hrows, hreads⟩

/-! ### Line feeds -/

/-- A table that can be read back has as many lines as it should. -/
theorem ReadsBack.length_splitOn {a : Answer} {maxRows : Nat} (h : a.ReadsBack maxRows) :
    ((a.markdownTable maxRows).toList.splitOn '\n').length
      = min a.rowCount maxRows + (a.noteLines maxRows).length + 2 := by
  obtain ⟨header, separator, rows, hlines, -, -, hlength, -⟩ := h
  rw [hlines, List.length_cons, List.length_cons, List.length_append, List.length_map, hlength]

/-- One address on two lines. -/
def addresses : Table where
  columns := ["name", "address"]
  rows := [[("name", .text "Ann"), ("address", .text "1 High Street\nYork")]]
  name := some "people"

/-- A line feed inside a cell breaks the table. -/
theorem not_readsBack_addresses :
    ∃ a, interpret {} (some "york") (some addresses) = .ok a ∧ a.noData = false ∧
      a.rows ≠ [] ∧ a.columns ≠ [] ∧ ¬ a.ReadsBack 20 := by
  have hquery : HasWord "york" := ⟨'y', by decide, by decide⟩
  refine ⟨_, interpret_of_hasData hquery (by decide), rfl, ?_, by decide, fun h => ?_⟩
  · exact mt List.length_eq_zero_iff.2 (by decide +kernel)
  · exact absurd h.length_splitOn (by decide +kernel)

end Answer

end TableQuery
