/-
TableQuery/Proofs/Question/Headers.lean

Headers without a word.

The scan of the columns passes over a header that is the empty text, and only
over that one.  A header of white space is its own lower case and occurs in
most questions, so it is taken for a name like any other
(`matchesHeader_iff`).  The scan ends at the first header that counts; so blank
headers do no harm exactly if each of them that stands in the question comes
behind a name that does (`skipsBlanks_iff`).

Main result: `skips_blank_headers`.
-/
import TableQuery.Proofs.Question.Addressing

namespace TableQuery

open Text

section Headers

variable {question column : String} {columns : List String}

/-! ### The headers that count -/

/-- A question holds the name of a column, in lower case. -/
structure HoldsName (question column : String) : Prop where
  hasWord : HasWord column
  occurs : Occurs (lowercase column) question

/-- A question holds the white space that a header is made of. -/
structure HoldsBlank (question column : String) : Prop where
  ne_empty : column ≠ ""
  blank : ¬ HasWord column
  occurs : Occurs column question

theorem lowercase_of_blank (h : ¬ HasWord column) : lowercase column = column := by
  rw [HasWord] at h
  simp only [not_exists, not_and, Bool.not_eq_false] at h
  rw [← String.toList_inj, toList_lowercase, lower_of_blank h]

/-- The scan takes a header for a name if it is one, or white space. -/
theorem matchesHeader_iff :
    lowercase column ≠ "" ∧ Occurs (lowercase column) question ↔
      HoldsName question column ∨ HoldsBlank question column := by
  -- a header with a word is found by its name, one of blanks wherever its blanks occur
  by_cases hword : HasWord column
  · constructor
    · rintro ⟨-, hoccurs⟩
      exact .inl ⟨hword, hoccurs⟩
    · rintro (hname | hblank)
      · exact ⟨lowercase_ne_empty hword.ne_empty, hname.occurs⟩
      · exact absurd hword hblank.blank
  · rw [lowercase_of_blank hword]
    constructor
    · rintro ⟨hne, hoccurs⟩
      exact .inr ⟨hne, hword, hoccurs⟩
    · rintro (hname | hblank)
      · exact absurd hname.hasWord hword
      · exact ⟨hblank.ne_empty, hblank.occurs⟩

/-- The column of a question is the first header that is a name or white space
in it. -/
theorem matchColumn?_eq_some_iff_isFirst :
    matchColumn? question columns = some column ↔
      IsFirst (fun c => HoldsName question c ∨ HoldsBlank question c) columns column := by
  rw [matchColumn?_eq_some_iff, NamesColumn]
  simp only [matchesHeader_iff]

theorem matchColumn?_eq_none_iff_forall :
    matchColumn? question columns = none ↔
      ∀ c ∈ columns, ¬ (HoldsName question c ∨ HoldsBlank question c) := by
  rw [matchColumn?, List.find?_eq_none]
  simp only [Bool.and_eq_true, decide_eq_true_eq, contains_iff, matchesHeader_iff]

/-! ### Passing over blank headers -/

/-- Blank headers do no harm to a question: no column that is resolved is one,
and the first column that is named is found. -/
structure SkipsBlanks (question : String) (columns : List String) : Prop where
  named : ∀ column, matchColumn? question columns = some column → HasWord column
  filterNamed : ∀ vocabulary filter, resolveFilter? vocabulary question columns = some filter →
    ∀ column, filter.column = some column → HasWord column
  sortNamed : ∀ vocabulary order, resolveSort? vocabulary question columns = some order →
    HasWord order.column
  found : ∀ column, IsFirst (HoldsName question) columns column →
    matchColumn? question columns = some column

/-- What the scan finds in the first columns it finds in all of them. -/
theorem matchColumn?_append_of_some {earlier later : List String}
    (h : matchColumn? question earlier = some column) :
    matchColumn? question (earlier ++ later) = some column := by
  rw [matchColumn?, List.find?_append, ← matchColumn?, h, Option.some_or]

/-- Every blank header that stands in the question comes behind a name that
does. -/
def BlanksComeLate (question : String) (columns : List String) : Prop :=
  ∀ earlier header later, columns = earlier ++ header :: later → HoldsBlank question header →
    ∃ column ∈ earlier, HoldsName question column

theorem SkipsBlanks.blanksComeLate (h : SkipsBlanks question columns) :
    BlanksComeLate question columns := by
  rintro earlier header later rfl hblank
  rcases hfound : matchColumn? question earlier with - | c
  · -- nothing in front of the header counts, so the scan ends there
    have hnone := matchColumn?_eq_none_iff_forall.1 hfound
    have hscan := matchColumn?_eq_some_iff_isFirst.2 ⟨.inr hblank, earlier, later, rfl, hnone⟩
    exact absurd (h.named header hscan) hblank.blank
  · have hword := h.named c (matchColumn?_append_of_some hfound)
    refine ⟨c, List.mem_of_find?_eq_some hfound, hword, ?_⟩
    exact (matchColumn?_eq_some_iff.1 hfound).1.2

theorem BlanksComeLate.hasWord (h : BlanksComeLate question columns)
    (hfound : matchColumn? question columns = some column) : HasWord column := by
  obtain ⟨hname | hblank, earlier, later, hsplit, hearlier⟩ :=
    matchColumn?_eq_some_iff_isFirst.1 hfound
  · exact hname.hasWord
  · obtain ⟨c, hc, hname⟩ := h earlier column later hsplit hblank
    exact absurd (.inl hname) (hearlier c hc)

theorem BlanksComeLate.found (h : BlanksComeLate question columns)
    (hfirst : IsFirst (HoldsName question) columns column) :
    matchColumn? question columns = some column := by
  obtain ⟨hname, earlier, later, rfl, hearlier⟩ := hfirst
  refine matchColumn?_eq_some_iff_isFirst.2 ⟨.inl hname, earlier, later, rfl, ?_⟩
  rintro c hc (hname' | hblank)
  · exact hearlier c hc hname'
  · -- white space in front of the first name would come behind another name
    obtain ⟨front, back, rfl⟩ := List.append_of_mem hc
    rw [List.append_assoc, List.cons_append] at h
    obtain ⟨d, hd, hname'⟩ := h front c _ rfl hblank
    exact hearlier d (List.mem_append_left _ hd) hname'

/-- **Blank headers do no harm exactly if those in the question come late.** -/
theorem skipsBlanks_iff : SkipsBlanks question columns ↔ BlanksComeLate question columns := by
  refine ⟨SkipsBlanks.blanksComeLate, fun h => ⟨fun _ => h.hasWord, ?_, ?_, fun _ => h.found⟩⟩
  · intro vocabulary filter hfilter column hcolumn
    rw [eq_of_resolveFilter? hfilter] at hcolumn
    exact h.hasWord hcolumn
  · intro vocabulary order horder
    exact h.hasWord (column_of_resolveSort? horder)

end Headers

/-- **Blank headers are passed over as far as they come late.**  The empty header
is never the column of a question.  No other blank header is either, and the
first named column is found, exactly if every blank header whose white space
stands in the question comes behind a column that the question names. -/
theorem skips_blank_headers (question : String) (columns : List String) :
    matchColumn? question columns ≠ some "" ∧
      (SkipsBlanks question columns ↔ BlanksComeLate question columns) := by
  refine ⟨?_, skipsBlanks_iff⟩
  intro hempty
  exact (matchColumn?_eq_some_iff.1 hempty).1.1 (by decide)

/-- A header of one blank in front of the column that is meant: the question is
sorted and filtered by the blank one. -/
theorem not_skips_blank_header :
    ¬ HasWord " " ∧ HoldsName "sort by price" "price" ∧
      matchColumn? "sort by price" [" ", "price"] = some " " ∧
      resolveSort? {} "sort by price" [" ", "price"] = some ⟨" ", false⟩ ∧
      resolveFilter? {} "sort by price" [" ", "price"] = some ⟨some " ", none⟩ := by
  refine ⟨?_, ⟨⟨'p', by decide, by decide⟩, contains_iff.1 (by decide +kernel)⟩, ?_, ?_, ?_⟩
  · rintro ⟨c, hc, hblank⟩
    rw [List.mem_singleton.1 hc] at hblank
    cases hblank
  · decide +kernel
  · decide +kernel
  · decide +kernel

end TableQuery
