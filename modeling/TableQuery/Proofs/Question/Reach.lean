/-
TableQuery/Proofs/Question/Reach.lean

Which columns and values a question can mean at all.

Of the columns or values that occur in a question the first declared one
counts.  So one that holds an earlier one is out of reach: whatever question
it occurs in, the earlier one occurs there too and is found before it.  This
is the only thing in the way, because the question that consists of its own
text holds nothing that it does not hold itself (`exists_isFirst_iff`).

Occurrence is used through two facts alone: it is transitive, which makes the
earlier one occur, and every text occurs in itself.

Main result: `reachable_iff`.
-/
import TableQuery.Proofs.Answer.Reading
import TableQuery.Proofs.Question.Meaning

namespace TableQuery

open Text

/-! ### Being first in some question -/

/-- What is declared in front of the first occurrence of a text. -/
def declaredBefore (x : String) (xs : List String) : List String :=
  xs.takeWhile (· ≠ x)

/-- The first text with a property is declared, has it, and nothing declared
before it has. -/
theorem isFirst_iff_declaredBefore {p : String → Prop} {xs : List String} {x : String} :
    IsFirst p xs x ↔ x ∈ xs ∧ p x ∧ ∀ y ∈ declaredBefore x xs, ¬ p y := by
  constructor
  · rintro ⟨hx, earlier, later, rfl, hearlier⟩
    have hne : ∀ y ∈ earlier, decide (y ≠ x) = true := by
      intro y hy
      refine decide_eq_true fun heq => hearlier y hy ?_
      rw [heq]
      exact hx
    refine ⟨List.mem_append_right _ List.mem_cons_self, hx, ?_⟩
    rw [declaredBefore, List.takeWhile_append_of_pos hne, List.takeWhile_cons_of_neg (by simp),
      List.append_nil]
    exact hearlier
  · rintro ⟨hmem, hx, hbefore⟩
    refine ⟨hx, declaredBefore x xs, (xs.dropWhile (· ≠ x)).tail, ?_, hbefore⟩
    -- the text itself is where the first part stops
    have hrest : xs.dropWhile (· ≠ x) ≠ [] := by
      intro hnil
      have hall := List.dropWhile_eq_nil_iff.1 hnil x hmem
      exact of_decide_eq_true hall rfl
    have hhead : (xs.dropWhile (· ≠ x)).head hrest = x := by
      have hstop := List.head_dropWhile_not (· ≠ x) hrest
      simpa using hstop
    calc xs = declaredBefore x xs ++ xs.dropWhile (· ≠ x) := List.takeWhile_append_dropWhile.symm
      _ = declaredBefore x xs ++ x :: (xs.dropWhile (· ≠ x)).tail := by
        rw [← List.cons_head_tail hrest, hhead, List.tail_cons]

/-- If a text is the first in some question, it is the first in its own: what
occurs in its own occurs in every question that it occurs in. -/
theorem exists_isFirst_iff (own : String → String) (p : String → String → Prop)
    (hown : ∀ q x, p q x → p (own x) x) (htrans : ∀ q x y, p q x → p (own x) y → p q y)
    {xs : List String} {x : String} :
    (∃ q, IsFirst (p q) xs x) ↔ IsFirst (p (own x)) xs x := by
  constructor
  · rintro ⟨q, hx, earlier, later, hxs, hearlier⟩
    exact ⟨hown q x hx, earlier, later, hxs, fun y hy hp => hearlier y hy (htrans q x y hx hp)⟩
  · intro h
    exact ⟨own x, h⟩

/-! ### Values and columns -/

theorem Text.Occurs.refl (s : String) : Occurs s s := List.infix_refl _

theorem Text.Occurs.trans {s t u : String} (hst : Occurs s t) (htu : Occurs t u) : Occurs s u :=
  List.IsInfix.trans hst htu

/-- A value can be meant exactly if no value declared before it occurs in it. -/
theorem exists_matchValue?_iff {values : List String} {value : String} :
    (∃ question, matchValue? question values = some value) ↔
      value ∈ values ∧ ∀ v ∈ declaredBefore value values, ¬ Occurs v value := by
  have hown : (∃ question, NamesValue question values value) ↔ NamesValue value values value :=
    exists_isFirst_iff id (fun question v => Occurs v question) (fun _ v _ => Occurs.refl v)
      fun _ _ _ hvalue hearlier => hearlier.trans hvalue
  simp only [matchValue?_eq_some_iff]
  rw [hown, NamesValue, isFirst_iff_declaredBefore]
  exact and_congr_right fun _ => and_iff_right (Occurs.refl value)

section Columns

variable {columns : List String} {column : String}

/-- A column is named and no named column declared before it occurs in it, in
lower case. -/
def WithinReach (columns : List String) (column : String) : Prop :=
  column ∈ columns ∧ lowercase column ≠ "" ∧
    ∀ c ∈ declaredBefore column columns, lowercase c ≠ "" → ¬ Occurs (lowercase c) (lowercase column)

/-- A column is within reach exactly if its own name means it. -/
theorem matchColumn?_lowercase_iff :
    matchColumn? (lowercase column) columns = some column ↔ WithinReach columns column := by
  rw [matchColumn?_eq_some_iff, NamesColumn, isFirst_iff_declaredBefore, WithinReach]
  refine and_congr_right fun _ => and_congr (and_iff_left (Occurs.refl _)) ?_
  simp only [not_and]

/-- A column can be meant exactly if it is within reach. -/
theorem exists_matchColumn?_iff :
    (∃ question, matchColumn? question columns = some column) ↔ WithinReach columns column := by
  have hown : (∃ question, NamesColumn question columns column) ↔
      NamesColumn (lowercase column) columns column :=
    exists_isFirst_iff lowercase (fun question c => lowercase c ≠ "" ∧ Occurs (lowercase c) question)
      (fun _ _ hcolumn => ⟨hcolumn.1, Occurs.refl _⟩)
      fun _ _ _ hcolumn hearlier => ⟨hearlier.1, hearlier.2.trans hcolumn.2⟩
  simp only [← matchColumn?_lowercase_iff, matchColumn?_eq_some_iff]
  exact hown

end Columns

/-! ### Answers -/

/-- The value that an answer filters on is the one that some question means. -/
theorem exists_matchValue?_of_interpret {settings : QuerySettings} {query : Option String}
    {table : Option Table} {a : Answer} {filter : RowFilter}
    (h : interpret settings query table = .ok a) (hfilter : a.filter = some filter) :
    ∃ question, filter.value = matchValue? question settings.vocabulary.filterValues := by
  rcases interpret_cases h with ⟨q, rfl⟩ | ⟨q, t, -, rfl⟩
  · cases hfilter
  · rw [Answer.filter_ofData, Answer.filterOf] at hfilter
    split at hfilter
    · exact ⟨lowercase q, congrArg RowFilter.value (eq_of_resolveFilter? hfilter)⟩
    · cases hfilter

/-- **What can be meant.**  A value is the one that some question means exactly if
none declared before its first occurrence stands in it.  A column is the one
that some question means, be it any text or one in lower case, exactly if it
has a name and none with a name that is declared before its first occurrence
stands in it, both in lower case.  So with the standard values, where "ok"
comes before "not ok", no answer to any question filters on "not ok". -/
theorem reachable_iff :
    (∀ (values : List String) (value : String),
      (∃ question, matchValue? question values = some value) ↔
        value ∈ values ∧ ∀ v ∈ declaredBefore value values, ¬ Occurs v value) ∧
    (∀ (columns : List String) (column : String),
      ((∃ question, matchColumn? question columns = some column) ↔ WithinReach columns column) ∧
        ((∃ query, matchColumn? (lowercase query) columns = some column) ↔
          WithinReach columns column)) ∧
    ¬ ∃ (settings : QuerySettings) (query : Option String) (table : Option Table) (a : Answer)
        (filter : RowFilter), settings.vocabulary.filterValues = ({} : Vocabulary).filterValues ∧
      interpret settings query table = .ok a ∧ a.filter = some filter ∧
        filter.value = some "not ok" := by
  refine ⟨fun values value => exists_matchValue?_iff, fun columns column => ⟨?_, ?_⟩, ?_⟩
  · exact exists_matchColumn?_iff
  · constructor
    · rintro ⟨query, hquery⟩
      exact exists_matchColumn?_iff.1 ⟨_, hquery⟩
    · intro hreach
      exact ⟨column, matchColumn?_lowercase_iff.2 hreach⟩
  · rintro ⟨settings, query, table, a, filter, hstandard, ha, hfilter, hvalue⟩
    obtain ⟨question, hquestion⟩ := exists_matchValue?_of_interpret ha hfilter
    rw [hstandard, hvalue] at hquestion
    obtain ⟨-, hbefore⟩ := exists_matchValue?_iff.1 ⟨question, hquestion.symm⟩
    -- the standard words name `ok` before `not ok`, and it occurs in it
    refine hbefore "ok" ?_ (contains_iff.1 ?_)
    · decide
    · decide

end TableQuery
