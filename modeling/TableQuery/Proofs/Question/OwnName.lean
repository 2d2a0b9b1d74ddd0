/-
TableQuery/Proofs/Question/OwnName.lean

Questions that name a column and nothing else.

"sort by" and "show" in front of a column's name ask for a sort and for a
filter on that column.  What else such a question means is up to the name:
every keyword is looked for in the whole text, so a name is read for keywords
too, and a keyword need not be a word of it.  The beginnings themselves add
nothing, because no keyword starts in them, not even one that would end in the
name.  So the direction of the sort and the value of the filter are those that
the lower-cased name contains (`resolves_ownName`).  A column "description" is
sorted in descending order, and a column "notes" is searched for "no"
(`not_resolves_description_notes`).
-/
import TableQuery.Proofs.Answer.Reading
import TableQuery.Proofs.Question.Meaning
import TableQuery.Proofs.Text.Lowercase
import TableQuery.Proofs.Text.Occurrence

namespace TableQuery

open Text

/-- The words that carry meaning unless a file replaces them. -/
abbrev standardWords : Vocabulary := {}

/-! ### What a question resolves to -/

/-- A question about the one column asks for a sort and means this one, as does
every answer to it. -/
structure ResolvesToSort (column question : String) (order : SortOrder) : Prop where
  intent : (Intent.classify standardWords (lowercase question)).sort = true
  resolved : resolveSort? standardWords (lowercase question) [column] = some order
  answered : ∀ (limits : Limits) (t : Table), t.columns = [column] → t.rows ≠ [] →
    ∃ a, interpret ⟨standardWords, limits⟩ (some question) (some t) = .ok a ∧ a.sort = some order

/-- A question about the one column asks for a filter and means this one, as
does every answer to it. -/
structure ResolvesToFilter (column question : String) (filter : RowFilter) : Prop where
  intent : (Intent.classify standardWords (lowercase question)).filter = true
  resolved : resolveFilter? standardWords (lowercase question) [column] = some filter
  answered : ∀ (limits : Limits) (t : Table), t.columns = [column] → t.rows ≠ [] →
    ∃ a, interpret ⟨standardWords, limits⟩ (some question) (some t) = .ok a ∧
      a.filter = some filter

/-! ### The beginnings -/

/-- No word of a list starts in a beginning. -/
def AllMiss (words : List String) (front : String) : Prop :=
  ∀ word ∈ words, Misses word.toList front.toList

theorem allMiss_sortBy : AllMiss standardWords.descendingKeywords "sort by " := by
  unfold AllMiss
  decide +kernel

theorem allMiss_show : AllMiss standardWords.filterValues "show " := by
  unfold AllMiss
  decide +kernel

section Beginning

variable {words : List String} {front : String}

/-- A list that misses the beginning is mentioned behind it or not at all. -/
theorem mentionsAny_append (h : AllMiss words front) (text : String) :
    mentionsAny (front ++ text) words = mentionsAny text words := by
  rw [Bool.eq_iff_iff, mentionsAny, mentionsAny, List.any_eq_true, List.any_eq_true]
  refine exists_congr fun word => and_congr_right fun hword => ?_
  rw [contains_append (h word hword)]

theorem matchValue?_append (h : AllMiss words front) (text : String) :
    matchValue? (front ++ text) words = matchValue? text words := by
  induction words with
  | nil => rfl
  | cons word words ih =>
    obtain ⟨hword, hwords⟩ := List.forall_mem_cons.1 h
    have hrest := ih hwords
    rw [matchValue?, matchValue?] at hrest ⊢
    rw [List.find?_cons, List.find?_cons, contains_append hword, hrest]

end Beginning

theorem lowercase_sortBy (column : String) :
    lowercase ("sort by " ++ column) = "sort by " ++ lowercase column := by
  have hfront : lowercase "sort by" = "sort by" := by decide +kernel
  exact lowercase_append_of_lower hfront column

theorem lowercase_show (column : String) :
    lowercase ("show " ++ column) = "show " ++ lowercase column := by
  have hfront : lowercase "show" = "show" := by decide +kernel
  exact lowercase_append_of_lower hfront column

/-! ### Resolving -/

section Resolving

variable {column front text : String}

/-- What stands behind a beginning occurs in the whole. -/
theorem contains_append_right (front text : String) : contains (front ++ text) text = true := by
  rw [contains_iff, Occurs, String.toList_append]
  exact (List.suffix_append _ _).isInfix

/-- A question that ends with the lower-cased name of a column names it. -/
theorem matchColumn?_ownName (hname : column ≠ "") (front : String) :
    matchColumn? (front ++ lowercase column) [column] = some column := by
  have hlower : decide (lowercase column ≠ "") = true := decide_eq_true (lowercase_ne_empty hname)
  rw [matchColumn?, List.find?_cons, hlower, contains_append_right, Bool.and_true]

/-- A word that is mentioned in the beginning is mentioned in the whole. -/
theorem mentionsAny_of_front {words : List String} {word : String} (hword : word ∈ words)
    (hfront : Occurs word front) (text : String) : mentionsAny (front ++ text) words = true := by
  rw [mentionsAny_iff]
  refine ⟨word, hword, ?_⟩
  rw [Occurs, String.toList_append]
  exact hfront.trans (List.prefix_append _ _).isInfix

/-- A question that ends with a stripped name is put as it is to a table with
rows. -/
theorem interpret_ownName (hfront : ∃ c ∈ front.toList.head?, isBlank c = false)
    (hname : column ≠ "") (hstripped : stripped column = column) (settings : QuerySettings)
    {t : Table} (hcolumns : t.columns = [column]) (hrows : t.rows ≠ []) :
    interpret settings (some (front ++ column)) (some t)
      = .ok (Answer.ofData settings (front ++ column) t) := by
  have hword : HasWord (front ++ column) := by
    obtain ⟨c, hc, hblank⟩ := hfront
    refine ⟨c, ?_, hblank⟩
    rw [String.toList_append]
    exact List.mem_append_left _ (List.mem_of_mem_head? hc)
  have hdata : t.hasData = true := by
    refine Table.hasData_iff.2 ⟨?_, hrows⟩
    rw [hcolumns]
    exact List.cons_ne_nil column []
  rw [interpret_of_hasData hword hdata, stripped_append hfront hname hstripped]

/-- Asking to sort by a column's name: the name alone decides the direction. -/
theorem resolvesToSort_ownName (hname : column ≠ "") (hstripped : stripped column = column) :
    ResolvesToSort column ("sort by " ++ column)
      ⟨column, mentionsAny (lowercase column) standardWords.descendingKeywords⟩ := by
  have hintent : (Intent.classify standardWords (lowercase ("sort by " ++ column))).sort
      = true := by
    rw [lowercase_sortBy]
    show mentionsAny ("sort by " ++ lowercase column) standardWords.sortKeywords = true
    have hsort : Occurs "sort" "sort by " := contains_iff.1 (by decide +kernel)
    exact mentionsAny_of_front List.mem_cons_self hsort (lowercase column)
  have hresolved : resolveSort? standardWords (lowercase ("sort by " ++ column)) [column]
      = some ⟨column, mentionsAny (lowercase column) standardWords.descendingKeywords⟩ := by
    rw [lowercase_sortBy, resolveSort?, matchColumn?_ownName hname, Option.map_some,
      mentionsAny_append allMiss_sortBy]
  refine ⟨hintent, hresolved, ?_⟩
  intro limits t hcolumns hrows
  have hfront : ∃ c ∈ "sort by ".toList.head?, isBlank c = false := ⟨'s', by decide, by decide⟩
  refine ⟨_, interpret_ownName hfront hname hstripped _ hcolumns hrows, ?_⟩
  rw [Answer.sort_ofData, hcolumns, Answer.sortOf, if_pos hintent, hresolved]

/-- Asking to show a column's name: the name alone decides the value. -/
theorem resolvesToFilter_ownName (hname : column ≠ "") (hstripped : stripped column = column) :
    ResolvesToFilter column ("show " ++ column)
      ⟨some column, matchValue? (lowercase column) standardWords.filterValues⟩ := by
  -- `show` in front makes the question one about a filter, and it hits no value itself
  have hintent : (Intent.classify standardWords (lowercase ("show " ++ column))).filter
      = true := by
    rw [lowercase_show]
    show mentionsAny ("show " ++ lowercase column) standardWords.filterKeywords = true
    have hshow : Occurs "show" "show " := contains_iff.1 (by decide +kernel)
    exact mentionsAny_of_front (List.mem_cons_of_mem _ List.mem_cons_self) hshow
      (lowercase column)
  have hresolved : resolveFilter? standardWords (lowercase ("show " ++ column)) [column]
      = some ⟨some column, matchValue? (lowercase column) standardWords.filterValues⟩ := by
    rw [lowercase_show, resolveFilter?, matchColumn?_ownName hname,
      matchValue?_append allMiss_show]
  refine ⟨hintent, hresolved, ?_⟩
  intro limits t hcolumns hrows
  have hfront : ∃ c ∈ "show ".toList.head?, isBlank c = false := ⟨'s', by decide, by decide⟩
  refine ⟨_, interpret_ownName hfront hname hstripped _ hcolumns hrows, ?_⟩
  rw [Answer.filter_ofData, hcolumns, Answer.filterOf, if_pos hintent, hresolved]

/-- **A question with a column's name resolves to that column**, and what else
it resolves to is what the lower-cased name contains: the sort is ascending
unless the name contains a keyword for descending order, and the filter has no
value unless the name contains one. -/
theorem resolves_ownName (hname : column ≠ "") (hstripped : stripped column = column) :
    (∃ order, ResolvesToSort column ("sort by " ++ column) order ∧ order.column = column ∧
        (order.descending = false ↔
          ¬ Mentions (lowercase column) standardWords.descendingKeywords)) ∧
      ∃ filter, ResolvesToFilter column ("show " ++ column) filter ∧
        filter.column = some column ∧
        (filter.value = none ↔ ¬ Mentions (lowercase column) standardWords.filterValues) ∧
        ∀ value, filter.value = some value ↔
          NamesValue (lowercase column) standardWords.filterValues value := by
  refine ⟨⟨_, resolvesToSort_ownName hname hstripped, rfl, ?_⟩,
    _, resolvesToFilter_ownName hname hstripped, rfl, ?_, ?_⟩
  · rw [← mentionsAny_iff, Bool.not_eq_true]
  · show matchValue? _ _ = none ↔ _
    rw [matchValue?_eq_none_iff_mentions]
  · exact fun value => matchValue?_eq_some_iff

/-- A name in Greek capitals, the last of which ends the word only if nothing
follows. -/
theorem resolves_ownName_greek :
    "ΜΕΓΕΘΟΣ" ≠ "" ∧ stripped "ΜΕΓΕΘΟΣ" = "ΜΕΓΕΘΟΣ" ∧
      (∃ order, ResolvesToSort "ΜΕΓΕΘΟΣ" ("sort by " ++ "ΜΕΓΕΘΟΣ") order ∧
          order.column = "ΜΕΓΕΘΟΣ" ∧
          (order.descending = false ↔
            ¬ Mentions (lowercase "ΜΕΓΕΘΟΣ") standardWords.descendingKeywords)) ∧
        ∃ filter, ResolvesToFilter "ΜΕΓΕΘΟΣ" ("show " ++ "ΜΕΓΕΘΟΣ") filter ∧
          filter.column = some "ΜΕΓΕΘΟΣ" ∧
          (filter.value = none ↔ ¬ Mentions (lowercase "ΜΕΓΕΘΟΣ") standardWords.filterValues) ∧
          ∀ value, filter.value = some value ↔
            NamesValue (lowercase "ΜΕΓΕΘΟΣ") standardWords.filterValues value := by
  have hname : "ΜΕΓΕΘΟΣ" ≠ "" := by decide
  have hstripped : stripped "ΜΕΓΕΘΟΣ" = "ΜΕΓΕΘΟΣ" := by decide +kernel
  exact ⟨hname, hstripped, resolves_ownName hname hstripped⟩

end Resolving

/-! ### Names with a keyword inside a word -/

/-- The words of some texts. -/
def wordsOf (texts : List String) : List String :=
  texts.flatMap fun s => (words s.toList).map String.ofList

/-- A stripped name, no word of which is a word of a keyword for descending
order or of a filter value. -/
def HasNoKeyword (column : String) : Prop :=
  column ≠ "" ∧ stripped column = column ∧ ∀ word ∈ wordsOf [column],
    lowercase word ∉ wordsOf (standardWords.descendingKeywords ++ standardWords.filterValues)

instance (column : String) : Decidable (HasNoKeyword column) :=
  inferInstanceAs (Decidable (_ ∧ _ ∧ _))

/-- Keywords are found inside words: "desc" in "description" and "no" in
"notes". -/
theorem not_resolves_description_notes :
    (HasNoKeyword "description" ∧
        ¬ ResolvesToSort "description" "sort by description" ⟨"description", false⟩) ∧
      (HasNoKeyword "notes" ∧
        ¬ ResolvesToFilter "notes" "show notes" ⟨some "notes", none⟩) := by
  have hdescription : HasNoKeyword "description" := by decide +kernel
  have hnotes : HasNoKeyword "notes" := by decide +kernel
  refine ⟨⟨hdescription, ?_⟩, hnotes, ?_⟩
  · intro h
    have hdescending : resolveSort? standardWords (lowercase "sort by description")
        ["description"] = some ⟨"description", true⟩ := by decide +kernel
    rw [h.resolved] at hdescending
    cases hdescending
  · intro h
    have hvalue : resolveFilter? standardWords (lowercase "show notes") ["notes"]
        = some ⟨some "notes", some "no"⟩ := by decide +kernel
    rw [h.resolved] at hvalue
    cases hvalue

end TableQuery
