/-
TableQuery/Proofs/Summary/Lines.lean

The lines of a summary, joined and divided again.

A line is made of texts of the table, a column and perhaps cells of it, with
the words and numbers of the program around them.  The words hold no end of a
line and the numbers not even white space, so a line is one line exactly if the
texts of the table in it are (`Summary.forall_oneLine_iff`).  The last
character is always one of the program's, so every line ends openly, which is
what joined lines need to be divided one by one.

Main result: `Summary.lines_text`.
-/
import TableQuery.Proofs.Number.Fixed
import TableQuery.Proofs.Summary.Counting
import TableQuery.Proofs.Text.Lines

namespace TableQuery

open Text

/-! ### One line -/

theorem oneLine_integerText (n : Int) : OneLine (integerText n).toList :=
  oneLine_of_forall_not_isBlank fun _ => isBlank_of_mem_integerText

theorem Binary64.oneLine_fixed (x : Binary64) (places : Nat) : OneLine (x.fixed places).toList :=
  oneLine_of_forall_not_isBlank fun _ => isBlank_of_mem_fixed

theorem ColumnStats.oneLine_line_iff (s : ColumnStats) :
    OneLine s.line.toList ↔ OneLine s.column.toList := by
  have hwords : OneLine ": Min=".toList ∧ OneLine ", Max=".toList ∧ OneLine ", Avg=".toList := by
    decide
  simp only [line, String.toList_append, oneLine_append, Binary64.oneLine_fixed, hwords, and_true]

theorem Frequency.oneLine_entry_iff (f : Frequency) :
    OneLine f.entry.toList ↔ OneLine f.value.toList := by
  have hwords : OneLine ": ".toList ∧ OneLine " (".toList ∧ OneLine "%)".toList := by decide
  simp only [entry, String.toList_append, oneLine_append, oneLine_integerText,
    Binary64.oneLine_fixed, hwords, and_true]

theorem oneLine_distributionLine_iff (column : String) (d : List Frequency) :
    OneLine (distributionLine column d).toList ↔
      OneLine column.toList ∧ ∀ f ∈ d, OneLine f.value.toList := by
  have hwords : OneLine " distribution: ".toList ∧ OneLine ", ".toList := by decide
  rw [distributionLine, String.toList_append, String.toList_append, String.toList_intercalate,
    oneLine_append, oneLine_append, oneLine_intercalate_iff hwords.2, and_iff_left hwords.1]
  simp only [List.forall_mem_map, Frequency.oneLine_entry_iff]

/-! ### The last character -/

theorem ColumnStats.endsOpen_line (s : ColumnStats) : EndsOpen s.line.toList := by
  have hword : EndsOpen ", Avg=".toList := endsOpen_of_oneLine (by decide) (by decide)
  rw [line, String.toList_append, String.toList_append]
  exact (hword.append_left _).append_oneLine (Binary64.oneLine_fixed _ 2)

theorem Frequency.endsOpen_entry (f : Frequency) : EndsOpen f.entry.toList := by
  have hword : EndsOpen "%)".toList := endsOpen_of_oneLine (by decide) (by decide)
  rw [entry, String.toList_append]
  exact hword.append_left _

theorem endsOpen_distributionLine (column : String) (d : List Frequency) :
    EndsOpen (distributionLine column d).toList := by
  have hword : EndsOpen " distribution: ".toList := endsOpen_of_oneLine (by decide) (by decide)
  rw [distributionLine, String.toList_append, String.toList_append, String.toList_intercalate]
  by_cases hd : d = []
  · -- nothing is listed, so the line ends in front of the list
    rw [hd]
    exact (hword.append_left _).append_oneLine oneLine_nil
  · have hentries : (d.map (·.entry)).map String.toList ≠ [] := by simpa using hd
    refine (endsOpen_intercalate hentries ?_).append_left _
    simp only [List.forall_mem_map]
    exact fun f _ => f.endsOpen_entry

/-! ### The lines of a summary -/

namespace Summary

/-- The line that counts the rows. -/
def totalLine (totalRows : Nat) : String := "Total rows: " ++ integerText totalRows

theorem oneLine_totalLine (n : Nat) : OneLine (totalLine n).toList := by
  rw [totalLine, String.toList_append, oneLine_append]
  exact ⟨by decide, oneLine_integerText n⟩

theorem endsOpen_totalLine (n : Nat) : EndsOpen (totalLine n).toList := by
  have hword : EndsOpen "Total rows: ".toList := endsOpen_of_oneLine (by decide) (by decide)
  rw [totalLine, String.toList_append]
  exact hword.append_oneLine (oneLine_integerText n)

section Made

variable {limits : Limits} {columns : List String} {requested : Bool} {rows : List Row}

theorem due_of_lines_ne_nil (h : (ofRows limits columns requested rows).lines ≠ []) :
    rows ≠ [] ∧ isDue limits rows.length requested = true := by
  rw [ofRows] at h
  split at h
  · exact absurd rfl h
  · next hmade => exact isMade_iff.1 hmade

/-- A line counts the rows, or belongs to a column with statistics or to one
with a distribution. -/
theorem mem_lines_iff (h : (ofRows limits columns requested rows).lines ≠ []) {line : String} :
    line ∈ (ofRows limits columns requested rows).lines ↔
      line = totalLine rows.length ∨
        (∃ stats ∈ (ofRows limits columns requested rows).numeric, line = stats.line) ∨
        ∃ entry ∈ (ofRows limits columns requested rows).categorical,
          line = distributionLine entry.1 entry.2 := by
  obtain ⟨hrows, hdue⟩ := due_of_lines_ne_nil h
  let entries := columns.filterMap fun column =>
    (distribution? limits rows column).map (column, ·)
  have hcategorical : ∀ entry,
      entry ∈ (ofRows limits columns requested rows).categorical ↔ entry ∈ entries :=
    fun entry => (mem_categorical_iff hrows hdue).trans mem_distributions_iff.symm
  simp only [hcategorical]
  rw [ofRows, if_neg (isMade_iff.2 ⟨hrows, hdue⟩)]
  show line ∈ totalLine rows.length :: (columns.filterMap (columnStats? rows)).map (·.line) ++
    entries.map (fun entry => distributionLine entry.1 entry.2) ↔ _
  rw [List.cons_append, List.mem_cons, List.mem_append, List.mem_map, List.mem_map]
  simp only [eq_comm]

end Made

/-- The texts of the table that a summary shows hold no end of a line: the
columns with statistics, the columns with a distribution, and the texts that
are listed there. -/
structure OneLineTexts (s : Summary) : Prop where
  numeric : ∀ stats ∈ s.numeric, OneLine stats.column.toList
  categorical : ∀ entry ∈ s.categorical,
    OneLine entry.1.toList ∧ ∀ f ∈ entry.2, OneLine f.value.toList

variable {limits : Limits} {columns : List String} {requested : Bool} {rows : List Row}
  {s : Summary}

/-- **The lines are one line each exactly if the texts in them are.** -/
theorem forall_oneLine_iff (hs : s = ofRows limits columns requested rows) (hne : s.lines ≠ []) :
    (∀ line ∈ s.lines, OneLine line.toList) ↔ s.OneLineTexts := by
  subst hs
  constructor
  · intro h
    constructor
    · intro stats hstats
      exact stats.oneLine_line_iff.1 (h _ ((mem_lines_iff hne).2 (.inr (.inl ⟨_, hstats, rfl⟩))))
    · intro entry hentry
      exact (oneLine_distributionLine_iff _ _).1
        (h _ ((mem_lines_iff hne).2 (.inr (.inr ⟨_, hentry, rfl⟩))))
  · intro h line hline
    -- the line with the total is one line always; the others depend on names and texts
    rcases (mem_lines_iff hne).1 hline with rfl | ⟨stats, hstats, rfl⟩ | ⟨entry, hentry, rfl⟩
    · exact oneLine_totalLine _
    · exact stats.oneLine_line_iff.2 (h.numeric stats hstats)
    · exact (oneLine_distributionLine_iff _ _).2 (h.categorical entry hentry)

theorem endsOpen_of_mem_lines (hs : s = ofRows limits columns requested rows) {line : String}
    (hline : line ∈ s.lines) : EndsOpen line.toList := by
  subst hs
  rcases (mem_lines_iff (List.ne_nil_of_mem hline)).1 hline with
    rfl | ⟨stats, -, rfl⟩ | ⟨entry, -, rfl⟩
  · exact endsOpen_totalLine _
  · exact stats.endsOpen_line
  · exact endsOpen_distributionLine _ _

/-! ### The text of a summary -/

/-- **The text of a summary is divided line by line.**  The lines come back as
they were exactly if the texts of the table in them hold no end of a line. -/
theorem lines_text (hs : s = ofRows limits columns requested rows) (hne : s.lines ≠ []) :
    Text.lines s.text.toList = (s.lines.map String.toList).flatMap Text.lines ∧
      (Text.lines s.text.toList = s.lines.map String.toList ↔ s.OneLineTexts) := by
  have hopen : ∀ part ∈ s.lines.map String.toList, EndsOpen part := by
    simp only [List.forall_mem_map]
    exact fun line hline => endsOpen_of_mem_lines hs hline
  have hdivided : Text.lines s.text.toList = (s.lines.map String.toList).flatMap Text.lines := by
    rw [text, String.toList_intercalate]
    exact lines_intercalate hopen
  refine ⟨hdivided, ?_⟩
  rw [hdivided, flatMap_lines_eq_self_iff fun part hpart => (hopen part hpart).ne_nil,
    ← forall_oneLine_iff hs hne]
  simp only [List.forall_mem_map]

end Summary

end TableQuery
