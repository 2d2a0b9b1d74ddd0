/-
TableQuery/Proofs/Question/Addressing.lean

Columns named in a question that is typed into the page.

The page normalizes a question before it is asked: words at single blanks and
nothing around them.  A header is not normalized.  So a name that is written
with a line break or with two blanks, or that begins or ends with white space,
is in the question as typed and no longer in the question as asked, and the
column is not found (`not_finds_wideHeader`).  A name that is in normal form
itself survives in every question that holds it.

Letters are compared in lower case, and the lower case of a capital sigma
depends on its neighbours.  A name with such a letter can stand in a longer
word that has another letter there in lower case, so it has to stand apart
(`StandsIn`); a name whose lower case occurs in the lower-cased question has
no such condition.

Main result: `finds_named_column`.
-/
import TableQuery.History
import TableQuery.Proofs.Answer.Reading
import TableQuery.Proofs.Question.Meaning
import TableQuery.Proofs.Text.Words

namespace TableQuery

open Text

/-! ### Normalized questions -/

/-- Stripping a question first makes no difference to its words. -/
theorem toList_normalizeQuestion (question : String) :
    (normalizeQuestion (some question)).toList = spaced question.toList := by
  rw [normalizeQuestion, String.toList_ofList, words_strip, spaced]

theorem toList_lowercase (s : String) : (lowercase s).toList = lower s.toList :=
  String.toList_ofList

/-- There is nothing to strip from a normalized question. -/
theorem stripped_normalizeQuestion (question : Option String) :
    stripped (normalizeQuestion question) = normalizeQuestion question := by
  cases question with
  | none => rfl
  | some q =>
    rw [stripped, toList_normalizeQuestion, strip_spaced, ← toList_normalizeQuestion,
      String.ofList_toList]

/-- A normalized question has a word unless it is empty. -/
theorem hasWord_normalizeQuestion {question : Option String} (h : normalizeQuestion question ≠ "") :
    HasWord (normalizeQuestion question) := by
  rw [← stripped_normalizeQuestion] at h
  exact stripped_ne_empty_iff.1 h

/-! ### What is found -/

/-- A question that is typed into the page finds a column: the scan of the
normalized question does, and an answer that sorts or filters means it. -/
structure FindsColumn (columns : List String) (question column : String) : Prop where
  scanned : matchColumn? (lowercase (normalizeQuestion (some question))) columns = some column
  answered : ∀ (settings : QuerySettings) (t : Table), t.columns = columns → t.rows ≠ [] →
    ∃ a, interpret settings (some (normalizeQuestion (some question))) (some t) = .ok a ∧
      (a.intent.sort = true → ∃ order, a.sort = some order ∧ order.column = column) ∧
      (a.intent.filter = true → ∃ filter, a.filter = some filter ∧ filter.column = some column)

/-- A question that the scan finds a column in has an answer, and the answer
means this column. -/
theorem findsColumn_of_scanned {columns : List String} {question column : String}
    (h : matchColumn? (lowercase (normalizeQuestion (some question))) columns = some column) :
    FindsColumn columns question column := by
  refine ⟨h, ?_⟩
  rintro settings t rfl hrows
  have hcolumns : t.columns ≠ [] := by
    intro hnil
    rw [hnil] at h
    cases h
  have hword : HasWord (normalizeQuestion (some question)) := by
    refine hasWord_normalizeQuestion fun hempty => ?_
    -- nothing but the empty text occurs in an empty question
    have hnamed := (matchColumn?_eq_some_iff.1 h).1
    rw [hempty] at hnamed
    exact hnamed.1 (String.toList_inj.1 (List.infix_nil.1 hnamed.2))
  refine ⟨_, interpret_of_hasData hword (Table.hasData_iff.2 ⟨hcolumns, hrows⟩), ?_, ?_⟩
  · intro hsort
    rw [Answer.intent_ofData] at hsort
    rw [Answer.sort_ofData, Answer.sortOf, if_pos hsort, resolveSort?, stripped_normalizeQuestion,
      h, Option.map_some]
    exact ⟨_, rfl, rfl⟩
  · intro hfilter
    rw [Answer.intent_ofData] at hfilter
    rw [Answer.filter_ofData, Answer.filterOf, if_pos hfilter, resolveFilter?,
      stripped_normalizeQuestion, h]
    exact ⟨_, rfl, rfl⟩

/-- A column whose lower-cased name occurs in the normalized question is found,
or one that is declared in front of it. -/
theorem exists_findsColumn {columns : List String} {question column : String}
    (hmem : column ∈ columns) (hname : column ≠ "")
    (h : Occurs (lowercase column) (lowercase (normalizeQuestion (some question)))) :
    ∃ c, FindsColumn columns question c := by
  have hsome : (matchColumn? (lowercase (normalizeQuestion (some question))) columns).isSome := by
    rw [matchColumn?, List.find?_isSome]
    refine ⟨column, hmem, ?_⟩
    rw [Bool.and_eq_true, decide_eq_true_eq, contains_iff]
    exact ⟨lowercase_ne_empty hname, h⟩
  obtain ⟨c, hc⟩ := Option.isSome_iff_exists.1 hsome
  exact ⟨c, findsColumn_of_scanned hc⟩

/-! ### Names in a question as typed -/

/-- A name stands in a question as it is written.  If it has a capital sigma,
it stands apart, with white space or nothing on both of its sides. -/
def StandsIn (column question : String) : Prop :=
  ∃ before after, question.toList = before ++ column.toList ++ after ∧
    ('Σ' ∈ column.toList → (∀ b ∈ before.getLast?, isBlank b = true) ∧
      ∀ b ∈ after.head?, isBlank b = true)

/-- A name that stands in a question occurs in it in lower case. -/
theorem StandsIn.occurs {column question : String} (h : StandsIn column question) :
    Occurs (lowercase column) (lowercase question) := by
  obtain ⟨before, after, hquestion, hsigma⟩ := h
  rw [Occurs, toList_lowercase, toList_lowercase, hquestion]
  by_cases hmem : 'Σ' ∈ column.toList
  · obtain ⟨hbefore, hafter⟩ := hsigma hmem
    exact lower_infix_of_apart hbefore hafter column.toList
  · exact lower_infix_of_not_mem hmem before after

section NormalForm

variable {column : String}

theorem normalizeQuestion_eq_self_iff :
    normalizeQuestion (some column) = column ↔ spaced column.toList = column.toList := by
  rw [← String.toList_inj, toList_normalizeQuestion]

/-- **A name in normal form survives normalizing**: where its lower case occurs
in a question as typed, it occurs in the question as asked. -/
theorem occurs_normalizeQuestion {question : String}
    (hnormal : normalizeQuestion (some column) = column)
    (h : Occurs (lowercase column) (lowercase question)) :
    Occurs (lowercase column) (lowercase (normalizeQuestion (some question))) := by
  rw [normalizeQuestion_eq_self_iff] at hnormal
  rw [Occurs, toList_lowercase, toList_lowercase] at h
  rw [Occurs, toList_lowercase, toList_lowercase, toList_normalizeQuestion, lower_spaced]
  refine infix_spaced h ?_
  rw [← lower_spaced, hnormal]

/-- A name that survives in the question that is the name itself is in normal
form: normalizing makes every other text shorter or changes its white space. -/
theorem normalizeQuestion_of_occurs
    (h : Occurs (lowercase column) (lowercase (normalizeQuestion (some column)))) :
    normalizeQuestion (some column) = column := by
  rw [Occurs, toList_lowercase, toList_lowercase, toList_normalizeQuestion, lower_spaced] at h
  have hsame : lower column.toList = spaced (lower column.toList) :=
    h.eq_of_length (Nat.le_antisymm h.length_le (length_spaced_le _))
  exact normalizeQuestion_eq_self_iff.2 (spaced_of_spaced_lower hsame.symm)

/-- **Exactly the names in normal form are found in every question that holds
them.**  As soon as a column's name is in normal form, every question as typed
that holds it, as it is written or in lower case, finds a column, this one or
one declared in front of it.  A name in any other form is not even found in
the question that is the name itself. -/
theorem finds_named_column (hword : HasWord column) :
    (normalizeQuestion (some column) = column → ∀ columns question, column ∈ columns →
        StandsIn column question ∨ Occurs (lowercase column) (lowercase question) →
        ∃ c, FindsColumn columns question c) ∧
      (normalizeQuestion (some column) ≠ column → ¬ ∃ c, FindsColumn [column] column c) := by
  have hname : column ≠ "" := by
    rintro rfl
    obtain ⟨c, hc, -⟩ := hword
    cases hc
  constructor
  · intro hnormal columns question hmem hnamed
    refine exists_findsColumn hmem hname (occurs_normalizeQuestion hnormal ?_)
    rcases hnamed with hstands | hoccurs
    · exact hstands.occurs
    · exact hoccurs
  · rintro hnot ⟨c, hc⟩
    obtain ⟨⟨-, hoccurs⟩, earlier, later, hsplit, -⟩ := matchColumn?_eq_some_iff.1 hc.scanned
    -- the table has this one column, so it is what was found, and it occurs in its normal form
    have hself : c = column := by
      have hmem : c ∈ [column] := hsplit ▸ List.mem_append_right _ List.mem_cons_self
      exact List.mem_singleton.1 hmem
    rw [hself] at hoccurs
    exact hnot (normalizeQuestion_of_occurs hoccurs)

end NormalForm

/-- Two words with a single blank, asked for among other blanks, and the same
words on two lines. -/
theorem finds_named_column_unitPrice :
    HasWord "Unit Price" ∧ HasWord "Unit\nPrice" ∧
      (∃ c, FindsColumn ["id", "Unit Price"] " Sort\tby  Unit Price\n" c) ∧
      ¬ ∃ c, FindsColumn ["Unit\nPrice"] "Unit\nPrice" c := by
  have hword : HasWord "Unit Price" := ⟨'U', by decide, by decide⟩
  have hbroken : HasWord "Unit\nPrice" := ⟨'U', by decide, by decide⟩
  have hstands : StandsIn "Unit Price" " Sort\tby  Unit Price\n" :=
    ⟨" Sort\tby  ".toList, "\n".toList, by decide, by decide⟩
  exact ⟨hword, hbroken,
    (finds_named_column hword).1 (by decide) _ _ (by decide) (.inl hstands),
    (finds_named_column hbroken).2 (by decide)⟩

/-- Names that are in a question as typed and are not found: one that is
written with two blanks, although the question as typed finds it, and one with
a capital sigma, inside a longer word. -/
theorem not_finds_wideHeader :
    (HasWord "Unit  Price" ∧ Occurs "Unit  Price" "sort by Unit  Price" ∧
        matchColumn? (lowercase "sort by Unit  Price") ["Unit  Price"] = some "Unit  Price" ∧
        matchColumn? (lowercase (normalizeQuestion (some "sort by Unit  Price")))
          ["Unit  Price"] = none) ∧
      (HasWord "ΟΔΟΣ" ∧ Occurs "ΟΔΟΣ" "sort by ΟΔΟΣΑ" ∧
        matchColumn? (lowercase (normalizeQuestion (some "sort by ΟΔΟΣΑ"))) ["ΟΔΟΣ"] = none) := by
  refine ⟨⟨⟨'U', by decide, by decide⟩, ?_, ?_, ?_⟩, ⟨'Ο', by decide, by decide⟩, ?_, ?_⟩
  · exact contains_iff.1 (by decide +kernel)
  · decide +kernel
  · decide +kernel
  · exact contains_iff.1 (by decide +kernel)
  · decide +kernel

end TableQuery
