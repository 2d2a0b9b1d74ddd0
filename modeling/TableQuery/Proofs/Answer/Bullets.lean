/-
TableQuery/Proofs/Answer/Bullets.lean

The bullets below the table of an answer.

The markdown of an answer lists the lines of its summary.  It does not take
them from the summary but divides the joined text again, and that at every
character that ends a line, not only at the line feeds that were put between
them.  So a line has one bullet exactly if it is one line, and otherwise one
for each piece.  Of the characters of a line only the texts of the table can do
that: a column that is named over two lines, or a cell with a line separator in
it (`not_bulletEach_separated`).

Main result: `Answer.markdown_bullets`.
-/
import TableQuery.Proofs.Answer.Markdown
import TableQuery.Proofs.Summary.Lines

namespace TableQuery

open Text

namespace Answer

/-! ### One line of a summary -/

/-- The bullet of a text. -/
def bullet (text : String) : String := "- " ++ text

/-- The bullets of a line: one for each piece that it is divided into. -/
def bulletsOf (line : String) : List String :=
  (lines line.toList).map fun piece => bullet (String.ofList piece)

theorem bullet_ofList_injective :
    Function.Injective fun piece : List Char => bullet (String.ofList piece) := by
  intro p q h
  have hchars := congrArg String.toList h
  simpa [bullet] using hchars

theorem map_bullet_toList (texts : List String) :
    (texts.map String.toList).map (fun piece => bullet (String.ofList piece))
      = texts.map bullet := by
  rw [List.map_map]
  exact List.map_congr_left fun text _ => congrArg bullet String.ofList_toList

theorem bulletsOf_ne_nil {line : String} (h : line.toList ≠ []) : bulletsOf line ≠ [] :=
  mt List.map_eq_nil_iff.1 (lines_ne_nil h)

/-- A line has its own bullet and no other exactly if it is one line. -/
theorem bulletsOf_eq_iff {line : String} (h : line.toList ≠ []) :
    bulletsOf line = [bullet line] ↔ OneLine line.toList := by
  constructor
  · intro heq
    -- a bullet tells its text, so a single bullet means that the line was not divided
    have hpieces : lines line.toList = [line.toList] := by
      apply bullet_ofList_injective.list_map
      rw [List.map_singleton, String.ofList_toList]
      exact heq
    have hmem : line.toList ∈ lines line.toList := by
      rw [hpieces]
      exact List.mem_singleton_self _
    exact oneLine_of_mem_lines hmem
  · intro hone
    rw [bulletsOf, lines_of_oneLine h hone, List.map_singleton, String.ofList_toList]

/-! ### The lines of a summary -/

variable {settings : QuerySettings} {query : Option String} {table : Option Table} {a : Answer}
  {s : Summary}

theorem summaryText_of_summary (hs : a.summary = some s) : a.summaryText = s.text := by
  rw [summaryText, hs]

/-- The bullets of an answer are those of the lines of its summary. -/
theorem summaryBullets_eq (h : interpret settings query table = .ok a) (hs : a.summary = some s)
    (hlines : s.lines ≠ []) : a.summaryBullets = s.lines.flatMap bulletsOf := by
  obtain ⟨columns, requested, hrows⟩ := summary_of_interpret h hs
  rw [summaryBullets, summaryText_of_summary hs, (Summary.lines_text hrows hlines).1,
    List.map_flatMap, List.flatMap_map]
  rfl

/-- A summary with lines is one of rows. -/
theorem rows_ne_nil_of_summary (h : interpret settings query table = .ok a)
    (hs : a.summary = some s) (hlines : s.lines ≠ []) : a.rows ≠ [] := by
  obtain ⟨columns, requested, hrows⟩ := summary_of_interpret h hs
  rw [hrows] at hlines
  intro hnil
  exact (Summary.due_of_lines_ne_nil hlines).1 (List.map_eq_nil_iff.2 hnil)

/-- No line of a summary is empty. -/
theorem toList_ne_nil_of_mem_lines (h : interpret settings query table = .ok a)
    (hs : a.summary = some s) {line : String} (hline : line ∈ s.lines) : line.toList ≠ [] := by
  obtain ⟨columns, requested, hrows⟩ := summary_of_interpret h hs
  exact (Summary.endsOpen_of_mem_lines hrows hline).ne_nil

theorem summaryText_ne_empty (h : interpret settings query table = .ok a)
    (hs : a.summary = some s) (hlines : s.lines ≠ []) : a.summaryText ≠ "" := by
  intro hempty
  obtain ⟨line, hline⟩ := List.exists_mem_of_ne_nil s.lines hlines
  have hnone : s.lines.flatMap bulletsOf = [] := by
    rw [← summaryBullets_eq h hs hlines, summaryBullets, hempty]
    rfl
  exact bulletsOf_ne_nil (toList_ne_nil_of_mem_lines h hs hline)
    (List.flatMap_eq_nil_iff.1 hnone line hline)

/-! ### The summary in the markdown -/

/-- **The lines of a summary as bullets.**  The markdown of an answer with a
summary ends in the bullets of the lines of the summary, line by line: every line
has one, and it has its own and no other exactly if it is one line.  So there is
one bullet for each line exactly if the texts of the table in them hold no end
of a line, and exactly then do the lines come back when their joined text is
divided. -/
theorem markdown_bullets (h : interpret settings query table = .ok a) (hs : a.summary = some s)
    (hlines : s.lines ≠ []) (maxRows : Int) :
    a.markdown maxRows = "\n".intercalate
        ([a.markdownTitle, ""] ++ a.tableLines maxRows escapeBars ++
          (["", "**Summary**", ""] ++ s.lines.flatMap bulletsOf)) ∧
      (∀ line ∈ s.lines, bulletsOf line ≠ [] ∧
        (bulletsOf line = [bullet line] ↔ OneLine line.toList)) ∧
      (s.lines.flatMap bulletsOf = s.lines.map bullet ↔ s.OneLineTexts) ∧
      (lines a.summaryText.toList = s.lines.map String.toList ↔ s.OneLineTexts) := by
  obtain ⟨columns, requested, hrows⟩ := summary_of_interpret h hs
  -- whether the lines are read back from the text is the same question for the bullets
  have hback := (Summary.lines_text hrows hlines).2
  have hbullets := summaryBullets_eq h hs hlines
  rw [← summaryText_of_summary hs] at hback
  refine ⟨?_, fun line hline => ?_, ?_, hback⟩
  · have hdata : a.noData = false := by
      rw [noData, hs]
      rfl
    rw [a.markdown_eq_lines hdata (rows_ne_nil_of_summary h hs hlines), markdownSummary,
      if_neg (summaryText_ne_empty h hs hlines), hbullets]
  · have hline := toList_ne_nil_of_mem_lines h hs hline
    exact ⟨bulletsOf_ne_nil hline, bulletsOf_eq_iff hline⟩
  · rw [← hback, ← hbullets, summaryBullets, ← map_bullet_toList]
    exact bullet_ofList_injective.list_map.eq_iff

/-- Screws with their prices. -/
def screws : Table where
  columns := ["item", "price"]
  rows := [[("item", .text "bolt"), ("price", .number (.whole 2 (by decide +kernel)))],
    [("item", .text "nut")]]
  name := some "stock"

theorem markdown_bullets_screws :
    ∃ a s, interpret {} (some "count") (some screws) = .ok a ∧ a.summary = some s ∧
      s.lines ≠ [] ∧ s.OneLineTexts ∧
      a.markdown 1 = "\n".intercalate
        ([a.markdownTitle, ""] ++ a.tableLines 1 escapeBars ++
          ["", "**Summary**", "", "- Total rows: 2", "- price: Min=2.00, Max=2.00, Avg=2.00",
            "- item distribution: bolt: 1 (50.0%), nut: 1 (50.0%)",
            "- price distribution: 2: 1 (50.0%), : 1 (50.0%)"]) := by
  have hquery : HasWord "count" := ⟨'c', by decide, by decide⟩
  have hanswer : interpret {} (some "count") (some screws)
      = .ok (ofData {} (stripped "count") screws) := interpret_of_hasData hquery (by decide)
  let s := Summary.ofRows {} screws.columns true
    ((ofData {} (stripped "count") screws).rows.map (·.row))
  have hs : (ofData {} (stripped "count") screws).summary = some s := by decide +kernel
  let shown := ["Total rows: 2", "price: Min=2.00, Max=2.00, Avg=2.00",
    "item distribution: bolt: 1 (50.0%), nut: 1 (50.0%)",
    "price distribution: 2: 1 (50.0%), : 1 (50.0%)"]
  have hshown : s.lines = shown := by decide +kernel
  have heach : shown.flatMap bulletsOf = shown.map bullet := by decide +kernel
  have hne : s.lines ≠ [] := by
    rw [hshown]
    exact List.cons_ne_nil _ _
  obtain ⟨hmarkdown, -, htexts, -⟩ := markdown_bullets hanswer hs hne 1
  rw [hshown] at hmarkdown htexts
  rw [heach] at hmarkdown
  exact ⟨_, s, hanswer, hs, hne, htexts.1 heach, hmarkdown⟩

/-- One item with a line separator in it. -/
def separated : Table where
  columns := ["item"]
  rows := [[("item", .text "bolt\u2028short")]]
  name := some "stock"

/-- A line with a line separator in it has two bullets. -/
theorem not_bulletEach_separated :
    ∃ a s, interpret {} (some "count") (some separated) = .ok a ∧ a.rows ≠ [] ∧
      a.summary = some s ∧
      s.lines = ["Total rows: 1", "item distribution: bolt\u2028short: 1 (100.0%)"] ∧
      a.summaryBullets
        = ["- Total rows: 1", "- item distribution: bolt", "- short: 1 (100.0%)"] ∧
      a.summaryBullets ≠ s.lines.map bullet ∧
      lines a.summaryText.toList ≠ s.lines.map String.toList := by
  have hquery : HasWord "count" := ⟨'c', by decide, by decide⟩
  have hanswer : interpret {} (some "count") (some separated)
      = .ok (ofData {} (stripped "count") separated) := interpret_of_hasData hquery (by decide)
  let s := Summary.ofRows {} separated.columns true
    ((ofData {} (stripped "count") separated).rows.map (·.row))
  have hs : (ofData {} (stripped "count") separated).summary = some s := by decide +kernel
  have hshown : s.lines
      = ["Total rows: 1", "item distribution: bolt\u2028short: 1 (100.0%)"] := by decide +kernel
  have hne : s.lines ≠ [] := by
    rw [hshown]
    exact List.cons_ne_nil _ _
  have hbullets := summaryBullets_eq hanswer hs hne
  refine ⟨_, s, hanswer, rows_ne_nil_of_summary hanswer hs hne, hs, hshown, ?_, ?_, ?_⟩
  · rw [hbullets, hshown]
    decide +kernel
  · rw [hbullets, hshown]
    decide +kernel
  · rw [summaryText_of_summary hs, Summary.text, hshown]
    decide +kernel

end Answer

end TableQuery
