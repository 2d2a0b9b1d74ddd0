/-
TableQuery/Proofs/Text/Bars.lean

Lines of fields between bars, and how they are read.

A line begins and ends with a bar, has one between every two fields, and a
blank on each side of every field.  A bar inside a field stands behind a
backslash.  A reader needs two rules: a bar directly behind a backslash does
not divide (`splitBars`), and it stands for a bar (`unescapeBars`).

Nothing else has to be escaped, backslashes included, and this is what the
blanks are for: the bar that closes a field stands behind a blank, so a
backslash at the end of a field cannot reach it.

Main result: `lineReads_tableLine`.
-/
import Mathlib.Data.List.Basic
import TableQuery.Answer.Display

namespace TableQuery

open Text

/-! ### The reader -/

/-- The pieces of a text between its bars.  A bar directly behind a backslash
does not divide; `escaped` says whether the text stands behind one. -/
def splitBars (escaped : Bool) : List Char → List (List Char)
  | [] => [[]]
  | c :: cs =>
    if c = '|' ∧ escaped = false then [] :: splitBars false cs
    else joinFirst c (splitBars (c = '\\') cs)

/-- A text with one bar in the place of every backslash with a bar. -/
def unescapeBars : List Char → List Char
  | [] => []
  | '\\' :: '|' :: cs => '|' :: unescapeBars cs
  | c :: cs => c :: unescapeBars cs

/-- A field between two blanks. -/
def padded (cs : List Char) : List Char := ' ' :: (cs ++ [' '])

/-- A line is read as some texts: its first and its last piece are empty, and
each of the others is one of the texts between two blanks. -/
def LineReads (line : List Char) (texts : List String) : Prop :=
  ∃ pieces, splitBars false line = [] :: (pieces ++ [[]]) ∧
    pieces.map unescapeBars = texts.map fun t => padded t.toList

/-! ### Escaping -/

/-- The characters of a text with every bar behind a backslash. -/
def escapedBars (cs : List Char) : List Char :=
  cs.flatMap fun c => if c = '|' then ['\\', '|'] else [c]

theorem toList_escapeBars (s : String) : (escapeBars s).toList = escapedBars s.toList :=
  String.toList_ofList

theorem escapedBars_cons_bar (cs : List Char) :
    escapedBars ('|' :: cs) = '\\' :: '|' :: escapedBars cs := rfl

theorem escapedBars_cons_of_ne {c : Char} (h : c ≠ '|') (cs : List Char) :
    escapedBars (c :: cs) = c :: escapedBars cs := by
  rw [escapedBars, List.flatMap_cons, if_neg h]
  rfl

/-- An escaped text does not begin with a bar. -/
theorem head?_escapedBars_append_ne {cs rest : List Char} (h : rest.head? ≠ some '|') :
    (escapedBars cs ++ rest).head? ≠ some '|' := by
  cases cs with
  | nil => exact h
  | cons c cs =>
    by_cases hc : c = '|'
    · subst hc
      rw [escapedBars_cons_bar]
      simp
    · rw [escapedBars_cons_of_ne hc]
      simpa using hc

theorem unescapeBars_cons_of_head? {c : Char} {cs : List Char} (h : cs.head? ≠ some '|') :
    unescapeBars (c :: cs) = c :: unescapeBars cs := by
  cases cs with
  | nil => simp [unescapeBars]
  | cons d ds =>
    have hd : d ≠ '|' := fun hd => h (congrArg some hd)
    rw [unescapeBars]
    intro ds' _ hds
    exact hd (List.cons.inj hds).1

/-- Escaping is undone, up to a rest that does not begin with a bar. -/
theorem unescapeBars_escapedBars_append {cs rest : List Char} (h : rest.head? ≠ some '|') :
    unescapeBars (escapedBars cs ++ rest) = cs ++ unescapeBars rest := by
  induction cs with
  | nil => rfl
  | cons c cs ih =>
    by_cases hc : c = '|'
    · subst hc
      rw [escapedBars_cons_bar, List.cons_append, List.cons_append, unescapeBars, ih]
      rfl
    · rw [escapedBars_cons_of_ne hc, List.cons_append,
        unescapeBars_cons_of_head? (head?_escapedBars_append_ne h), ih]
      rfl

/-! ### Dividing -/

theorem foldr_joinFirst (cs piece : List Char) (pieces : List (List Char)) :
    cs.foldr joinFirst (piece :: pieces) = (cs ++ piece) :: pieces := by
  induction cs with
  | nil => rfl
  | cons c cs ih => rw [List.foldr_cons, ih, joinFirst, List.cons_append]

theorem splitBars_cons_of_ne {c : Char} (h : c ≠ '|') (escaped : Bool) (cs : List Char) :
    splitBars escaped (c :: cs) = joinFirst c (splitBars (c = '\\') cs) := by
  rw [splitBars]
  exact if_neg fun hbar => h hbar.1

/-- An escaped text up to a blank is not divided, whatever it stands behind. -/
theorem splitBars_escapedBars_append (escaped : Bool) (cs rest : List Char) :
    splitBars escaped (escapedBars cs ++ ' ' :: rest)
      = (escapedBars cs ++ [' ']).foldr joinFirst (splitBars false rest) := by
  induction cs generalizing escaped with
  | nil => exact splitBars_cons_of_ne (by decide) escaped rest
  | cons c cs ih =>
    by_cases hc : c = '|'
    · subst hc
      rw [escapedBars_cons_bar, List.cons_append, List.cons_append,
        splitBars_cons_of_ne (by decide), splitBars]
      -- the bar stands behind a backslash
      rw [if_neg (by decide), ih]
      rfl
    · rw [escapedBars_cons_of_ne hc, List.cons_append, splitBars_cons_of_ne hc, ih]
      rfl

/-- A field ends at the bar behind it. -/
theorem splitBars_field (cs rest : List Char) :
    splitBars false (padded (escapedBars cs) ++ '|' :: rest)
      = padded (escapedBars cs) :: splitBars false rest := by
  have hbar : splitBars false ('|' :: rest) = [] :: splitBars false rest := by
    rw [splitBars]
    exact if_pos ⟨rfl, rfl⟩
  rw [padded, List.cons_append, List.append_assoc, splitBars_cons_of_ne (by decide)]
  show joinFirst ' ' (splitBars false (escapedBars cs ++ ' ' :: '|' :: rest)) = _
  rw [splitBars_escapedBars_append, hbar, foldr_joinFirst, joinFirst, List.append_nil]

theorem splitBars_fields (texts : List String) :
    splitBars false (texts.flatMap fun t => padded (escapedBars t.toList) ++ ['|'])
      = (texts.map fun t => padded (escapedBars t.toList)) ++ [[]] := by
  induction texts with
  | nil => rfl
  | cons t texts ih =>
    rw [List.flatMap_cons, List.append_assoc, List.singleton_append, splitBars_field, ih]
    rfl

/-! ### Lines -/

/-- What stands before and after each of some texts stands between them and at
both ends. -/
theorem append_intercalate_append (before after : List Char) {xs : List (List Char)}
    (h : xs ≠ []) :
    before ++ (after ++ before).intercalate xs ++ after
      = xs.flatMap fun x => before ++ x ++ after := by
  induction xs with
  | nil => exact absurd rfl h
  | cons x xs ih =>
    cases xs with
    | nil => simp
    | cons y ys =>
      rw [List.intercalate_cons_cons, List.flatMap_cons, ← ih (List.cons_ne_nil _ _)]
      simp only [List.append_assoc]

/-- A line of a table, field by field. -/
theorem toList_tableLine {fields : List String} (h : fields ≠ []) :
    (Answer.tableLine fields).toList
      = '|' :: fields.flatMap fun field => padded field.toList ++ ['|'] := by
  have hfields : fields.map String.toList ≠ [] := fun hnil => h (List.map_eq_nil_iff.1 hnil)
  have hline := append_intercalate_append [' '] [' ', '|'] hfields
  rw [List.flatMap_map] at hline
  rw [Answer.tableLine, String.toList_append, String.toList_append, String.toList_intercalate]
  refine (congrArg ('|' :: ·) hline).trans ?_
  simp only [padded, List.cons_append, List.append_assoc, List.nil_append]

/-- **A line of escaped fields is read as the fields.** -/
theorem lineReads_tableLine {texts : List String} (h : texts ≠ []) :
    LineReads (Answer.tableLine (texts.map escapeBars)).toList texts := by
  have hfields : texts.map escapeBars ≠ [] := fun hnil => h (List.map_eq_nil_iff.1 hnil)
  refine ⟨texts.map fun t => padded (escapedBars t.toList), ?_, ?_⟩
  · rw [toList_tableLine hfields, List.flatMap_map, splitBars, if_pos ⟨rfl, rfl⟩]
    simp only [toList_escapeBars]
    rw [splitBars_fields]
  · rw [List.map_map]
    refine List.map_congr_left fun t _ => ?_
    show unescapeBars (padded (escapedBars t.toList)) = padded t.toList
    rw [padded, unescapeBars_cons_of_head? (head?_escapedBars_append_ne (by decide)),
      unescapeBars_escapedBars_append (by decide)]
    rfl

/-- A line has no characters but those of its fields and its own. -/
theorem not_mem_toList_tableLine {c : Char} (hc : c ≠ '|' ∧ c ≠ ' ') {fields : List String}
    (h : fields ≠ []) (hfields : ∀ field ∈ fields, c ∉ field.toList) :
    c ∉ (Answer.tableLine fields).toList := by
  rw [toList_tableLine h]
  simp only [padded, List.mem_cons, List.mem_flatMap, List.mem_append]
  grind

theorem not_mem_toList_escapeBars {c : Char} (hc : c ≠ '|' ∧ c ≠ '\\') {s : String}
    (h : c ∉ s.toList) : c ∉ (escapeBars s).toList := by
  rw [toList_escapeBars, escapedBars, List.mem_flatMap]
  grind

end TableQuery
