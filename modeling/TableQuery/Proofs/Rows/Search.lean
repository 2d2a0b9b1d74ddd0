/-
TableQuery/Proofs/Rows/Search.lean

Searching for a text as it is written.

The term of a search and the texts of the cells are lower-cased each on its
own.  A capital sigma has two lower cases, and which of them it gets depends on
its neighbours, in the term on those in the term and in a cell on those in the
cell.  So a term need not be found in a cell that holds it
(`not_finds_verbatim`).  It is found where it stands apart, and it is found in
every cell that holds it exactly if a letter in front of it and one behind it
leave its lower case as it is.

Main result: `finds_verbatim`.
-/
import TableQuery.Proofs.Answer.Selection
import TableQuery.Proofs.Question.Addressing
import TableQuery.Proofs.Text.Surroundings

namespace TableQuery

open Text

section Search

variable {term : String} {columns : List String} {rows : List PlacedRow}

/-- A search finds the rows with a text whose lower case holds that of the
term. -/
theorem mem_searchRows {r : PlacedRow} :
    r ∈ searchRows columns term rows ↔
      r ∈ rows ∧ ∃ c ∈ columns, Occurs (lowercase term) (lowercase (r.row.cell c).plainText) := by
  rw [searchRows, List.mem_filter, Row.mentions_iff]
  rfl

/-- A search for a term finds every row with a cell that holds the term as it is
written. -/
def FindsVerbatim (term : String) : Prop :=
  ∀ (columns : List String) (rows : List PlacedRow), ∀ r ∈ rows, ∀ column ∈ columns,
    Occurs term (r.row.cell column).plainText → r ∈ searchRows columns term rows

/-- A row with one text. -/
def rowOf (text : String) : PlacedRow := ⟨0, [("text", .text text)]⟩

/-- A term that is always found stands in lower case in every text that holds
it. -/
theorem FindsVerbatim.occurs (h : FindsVerbatim term) {text : String} (htext : Occurs term text) :
    Occurs (lowercase term) (lowercase text) := by
  have hfound : rowOf text ∈ searchRows ["text"] term [rowOf text] :=
    h _ _ _ List.mem_cons_self _ List.mem_cons_self htext
  obtain ⟨-, c, hc, hoccurs⟩ := mem_searchRows.1 hfound
  rw [List.mem_singleton.1 hc] at hoccurs
  exact hoccurs

/-- **A term is always found exactly if its case is steady.** -/
theorem findsVerbatim_iff : FindsVerbatim term ↔ SteadyCase term.toList := by
  constructor
  · intro h
    -- two cells decide it: the term with a letter in front of it, and with one behind it
    have hbehind : Occurs (lowercase term) (lowercase ("A" ++ term)) := by
      refine h.occurs ?_
      rw [Occurs, String.toList_append]
      exact (List.suffix_append _ _).isInfix
    have hbefore : Occurs (lowercase term) (lowercase (term ++ "A")) := by
      refine h.occurs ?_
      rw [Occurs, String.toList_append]
      exact (List.prefix_append _ _).isInfix
    rw [Occurs, toList_lowercase, toList_lowercase, String.toList_append] at hbehind hbefore
    exact steadyCase_iff_isInfix.2 ⟨hbehind, hbefore⟩
  · intro h columns rows r hr column hcolumn hoccurs
    obtain ⟨before, after, htext⟩ := hoccurs
    refine mem_searchRows.2 ⟨hr, column, hcolumn, ?_⟩
    rw [Occurs, toList_lowercase, toList_lowercase, ← htext]
    exact h.isInfix before after

end Search

/-- **A search finds a term as it is written, except for capital sigmas inside
words.**  Every row is found that has the term in a cell, with white space or
nothing around it if the term has a capital sigma.  A term is found wherever it
stands exactly if a letter in front of it and a letter behind it leave its lower
case as it is, and a term without a capital sigma has such a case. -/
theorem finds_verbatim (term : String) :
    (∀ columns rows, ∀ r ∈ rows, ∀ column ∈ columns,
        StandsIn term (r.row.cell column).plainText → r ∈ searchRows columns term rows) ∧
      (FindsVerbatim term ↔ SteadyCase term.toList) ∧
      ('Σ' ∉ term.toList → SteadyCase term.toList) := by
  refine ⟨?_, findsVerbatim_iff, steadyCase_of_not_mem⟩
  intro columns rows r hr column hcolumn hstands
  exact mem_searchRows.2 ⟨hr, column, hcolumn, hstands.occurs⟩

/-- A street inside a longer word, and a letter at the end of one: the row holds
the term and is not found. -/
theorem not_finds_verbatim :
    (Occurs "ΟΔΟΣ" "ΟΔΟΣΑ" ∧ searchRows ["text"] "ΟΔΟΣ" [rowOf "ΟΔΟΣΑ"] = []) ∧
      (Occurs "Σ" "ΑΣ" ∧ searchRows ["text"] "Σ" [rowOf "ΑΣ"] = []) := by
  refine ⟨⟨contains_iff.1 ?_, ?_⟩, contains_iff.1 ?_, ?_⟩
  · decide +kernel
  · decide +kernel
  · decide +kernel
  · decide +kernel

end TableQuery
