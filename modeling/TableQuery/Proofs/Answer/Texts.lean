/-
TableQuery/Proofs/Answer/Texts.lean

An answer depends on the texts of the cells alone.

Every step from a table to an answer reads a cell in one of three ways: as a
text, as a number, or by asking whether there is a value.  The last two can be
told from the text (`Proofs/Cell/Reading.lean`), so two tables whose cells
have the same texts are answered in the same way, whatever kinds of cells they
hold, and whatever their rows hold under names that are no column.

The proof follows the rows through the steps with one relation,
`PlacedRow.Alike`: the rows stand at the same position and their cells are
alike.  Selecting and sorting keep it, and a summary is made of nothing else.

Main result: `interpret_alike`.
-/
import TableQuery.Proofs.Answer.LetterCase
import TableQuery.Proofs.Summary

namespace TableQuery

open Text

/-! ### Rows that are alike -/

/-- Two rows at the same position with alike cells in each of the columns. -/
structure PlacedRow.Alike (columns : List String) (p q : PlacedRow) : Prop where
  position : p.position = q.position
  row : p.row.Alike columns q.row

/-- Two tables with the same columns and with alike cells in each row. -/
structure Table.Alike (t u : Table) : Prop where
  columns : t.columns = u.columns
  rows : List.Forall₂ (Row.Alike t.columns) t.rows u.rows

instance (t u : Table) : Decidable (t.Alike u) :=
  decidable_of_iff (t.columns = u.columns ∧ List.Forall₂ (Row.Alike t.columns) t.rows u.rows)
    ⟨fun h => ⟨h.1, h.2⟩, fun h => ⟨h.columns, h.rows⟩⟩

theorem Table.Alike.placedRows {t u : Table} (h : t.Alike u) :
    List.Forall₂ (PlacedRow.Alike t.columns) t.placedRows u.placedRows :=
  (Table.forall₂_placedRows h.rows).imp fun _ _ hpq => ⟨hpq.1, hpq.2⟩

/-- Rows that are alike are the same in lower case. -/
theorem Row.Alike.sameLower {columns : List String} {r s : Row} (h : r.Alike columns s) :
    r.SameLower columns s :=
  fun column hcolumn => congrArg lowercase (h column hcolumn).plainText

/-- Tables that are alike are the same in lower case. -/
theorem Table.Alike.sameLower {t u : Table} (h : t.Alike u) : t.SameLower u where
  columns := h.columns
  rows := h.rows.imp fun _ _ hrow => hrow.sameLower

/-! ### Sorting -/

namespace Answer

variable {vocabulary : Vocabulary} {question : String} {columns : List String}

theorem mem_of_sortOf {s : SortOrder} (h : sortOf vocabulary question columns = some s) :
    s.column ∈ columns :=
  mem_of_matchColumn? (matchColumn?_of_sortOf h)

end Answer

/-- **Rows that are alike are sorted in the same way.** -/
theorem SortOrder.apply_alike {columns : List String} {s? : Option SortOrder}
    (hs : ∀ s ∈ s?, s.column ∈ columns) {rows rows' : List PlacedRow}
    (h : List.Forall₂ (PlacedRow.Alike columns) rows rows') :
    List.Forall₂ (PlacedRow.Alike columns) (apply s? rows) (apply s? rows') := by
  rcases s? with - | s
  · exact h
  · have hkey : ∀ p q, PlacedRow.Alike columns p q → (s.keyOf p).Alike (s.keyOf q) :=
      fun p q hpq => (hpq.row s.column (hs s rfl)).key
    have hbefore : AgreeOn (PlacedRow.Alike columns) s.beforeRow s.beforeRow := by
      intro p p' hp q q' hq
      rw [beforeRow, beforeRow, before, before, (hkey p p' hp).order_congr (hkey q q' hq)]
    rw [apply_eq_arrange, apply_eq_arrange]
    exact arrange_corresponds hbefore h

/-! ### Answers -/

namespace Answer

/-- Two answers that read the question in the same way and show the same
positions, with summaries that are equal as numbers. -/
structure Alike (a b : Answer) : Prop where
  query : a.query = b.query
  columns : a.columns = b.columns
  intent : a.intent = b.intent
  filter : a.filter = b.filter
  sort : a.sort = b.sort
  positions : a.positions = b.positions
  summary : Option.Rel Summary.Alike a.summary b.summary

variable {settings : QuerySettings} {query : String} {t u : Table}

theorem rows_alike (h : t.Alike u) :
    List.Forall₂ (PlacedRow.Alike t.columns) (ofData settings query t).rows
      (ofData settings query u).rows := by
  rw [rows_ofData, rows_ofData, ← h.columns]
  refine SortOrder.apply_alike (fun s hs => mem_of_sortOf hs) ?_
  refine List.rel_filter ?_ h.placedRows
  intro p q hpq
  exact Bool.eq_iff_iff.1 (selects_sameLower hpq.row.sameLower)

theorem alike_ofData (h : t.Alike u) :
    (ofData settings query t).Alike (ofData settings query u) := by
  have hrows : List.Forall₂ (PlacedRow.Alike t.columns) (ofData settings query t).rows
      (ofData settings query u).rows := rows_alike h
  refine ⟨rfl, h.columns, rfl, ?_, ?_, ?_, ?_⟩
  · rw [filter_ofData, filter_ofData, h.columns]
  · rw [sort_ofData, sort_ofData, h.columns]
  · have hpositions := List.rel_map (fun _ _ hpq => PlacedRow.Alike.position hpq) hrows
    rwa [List.forall₂_eq_eq_eq] at hpositions
  · rw [summary_ofData, summary_ofData, ← h.columns]
    refine .some (Summary.alike_ofRows _ _ ?_)
    exact List.rel_map (fun _ _ hpq => hpq.row) hrows

end Answer

/-- **An answer depends on the texts of the cells alone.** -/
theorem interpret_alike (settings : QuerySettings) {query : String} {t u : Table}
    (hquery : HasWord query) (h : t.Alike u) :
    ∃ a b, interpret settings (some query) (some t) = .ok a ∧
      interpret settings (some query) (some u) = .ok b ∧ a.Alike b := by
  -- tables that are alike have data both or neither
  rcases ht : t.hasData with - | -
  · have hu : u.hasData = false := h.sameLower.hasData ▸ ht
    refine ⟨_, _, interpret_of_noData hquery ht, interpret_of_noData hquery hu, ?_⟩
    exact ⟨rfl, h.columns, rfl, rfl, rfl, rfl, .none⟩
  · have hu : u.hasData = true := h.sameLower.hasData ▸ ht
    exact ⟨_, _, interpret_of_hasData hquery ht, interpret_of_hasData hquery hu,
      Answer.alike_ofData h⟩

/-- Lengths that were measured; one row holds a name that is no column. -/
def measuredLengths : Table where
  columns := ["length", "note"]
  rows :=
    [[("length", .number (.whole 10 (by decide +kernel))), ("note", .absent)],
      [("length", .number (.real (.zero true) rfl)), ("note", .boolean true),
        ("place", .text "shelf")]]
  name := some "parts"

/-- The same lengths in cells of other kinds. -/
def notedLengths : Table where
  columns := ["length", "note"]
  rows :=
    [[("length", .number (.real (.ofInt 10) (Binary64.isNaN_ofInt 10))),
        ("note", .text "")],
      [("note", .text "true"), ("length", .text "0")]]
  name := none

theorem interpret_alike_lengths :
    HasWord " Sort by length and count " ∧ measuredLengths.Alike notedLengths ∧
      ∃ a b, interpret {} (some " Sort by length and count ") (some measuredLengths) = .ok a ∧
        interpret {} (some " Sort by length and count ") (some notedLengths) = .ok b ∧
        a.Alike b := by
  have hquery : HasWord " Sort by length and count " := ⟨'S', by decide, by decide⟩
  have halike : measuredLengths.Alike notedLengths := by decide +kernel
  exact ⟨hquery, halike, interpret_alike {} hquery halike⟩

end TableQuery
