/-
TableQuery/Proofs/Answer/Repetition.lean

Asking a question again, about the rows that it was answered with.

Selecting looks at one row at a time, so every row of an answer is selected
again.  Sorting is the harder half: the comparison of cells is not transitive
where a column mixes numbers and texts, so the rows of an answer need not be
in order, and a second sort has no reason to leave them alone but one.  A sort
settles the keys of the rows (`SortOrder.settled_apply`), and it takes settled
rows as one run (`SortOrder.apply_of_settled`).  The sort is that of
Rows/Arrangement.lean, with its scope.

Main result: `interpret_ownTable`.
-/
import TableQuery.Proofs.Answer.Reading

namespace TableQuery

open Text

/-! ### Sorting again -/

namespace SortOrder

variable (s : SortOrder)

/-- A sort settles the keys of the rows. -/
theorem settled_apply (rows : List PlacedRow) :
    Settled s.before ((apply (some s) rows).map s.keyOf) := by
  rw [Settled, List.isChain_map]
  exact s.settled_apply_rows rows

/-- Rows with settled keys are left as they are. -/
theorem apply_of_settled {rows : List PlacedRow} (h : Settled s.before (rows.map s.keyOf)) :
    apply (some s) rows = rows := by
  rw [Settled, List.isChain_map] at h
  rw [apply_eq_arrange]
  exact arrange_of_settled h

/-- A sort leaves rows as they are that hold what a sort made, wherever they
are placed. -/
theorem apply_of_map_row_eq {s : Option SortOrder} {rows sorted : List PlacedRow}
    (h : sorted.map (·.row) = (apply s rows).map (·.row)) : apply s sorted = sorted := by
  rcases s with - | s
  · rfl
  · have hkeys : sorted.map s.keyOf = (apply (some s) rows).map s.keyOf := by
      -- the key of a row does not depend on its position
      have hkey := congrArg (List.map fun row : Row => (row.cell s.column).key) h
      rw [List.map_map, List.map_map] at hkey
      exact hkey
    refine s.apply_of_settled ?_
    rw [hkeys]
    exact s.settled_apply rows

end SortOrder

/-! ### Selecting again -/

/-- A table of which each row passes a test keeps all its rows. -/
theorem Table.filter_placedRows_eq_self {t : Table} {test : Row → Bool}
    (h : ∀ row ∈ t.rows, test row = true) :
    t.placedRows.filter (fun r => test r.row) = t.placedRows := by
  refine List.filter_eq_self.2 fun r hr => h r.row ?_
  exact List.mem_of_getElem? (Table.mem_placedRows.1 hr)

namespace Answer

/-- A table with the rows of an answer in the place of its own. -/
def ownTable (a : Answer) (t : Table) : Table := { t with rows := a.rows.map (·.row) }

@[simp] theorem columns_ownTable (a : Answer) (t : Table) : (a.ownTable t).columns = t.columns :=
  rfl

@[simp] theorem rows_ownTable (a : Answer) (t : Table) :
    (a.ownTable t).rows = a.rows.map (·.row) := rfl

variable {settings : QuerySettings} {query : String} {t : Table}

/-- Asked again, a question selects every row and moves none. -/
theorem rows_ofData_ownTable :
    (ofData settings query ((ofData settings query t).ownTable t)).rows
      = ((ofData settings query t).ownTable t).placedRows := by
  have hall : ∀ row ∈ ((ofData settings query t).ownTable t).rows,
      selects settings.vocabulary (lowercase query) t.columns row = true := by
    intro row hrow
    obtain ⟨r, hr, rfl⟩ := List.mem_map.1 hrow
    exact selects_of_mem_rows hr
  have hsorted := congrArg (List.map (·.row)) (rows_ofData settings query t)
  rw [← rows_ownTable, ← Table.map_row_placedRows] at hsorted
  rw [rows_ofData, columns_ownTable, Table.filter_placedRows_eq_self hall]
  exact SortOrder.apply_of_map_row_eq hsorted

/-- An answer repeats another: it holds the same rows in the same order and,
if there are any, says the same about them. -/
structure Repeats (b a : Answer) : Prop where
  rows : b.rows.map (·.row) = a.rows.map (·.row)
  filter : a.rows ≠ [] → b.filter = a.filter
  sort : a.rows ≠ [] → b.sort = a.sort
  intent : a.rows ≠ [] → b.intent = a.intent
  summaryText : a.rows ≠ [] → b.summaryText = a.summaryText

/-- Two answers without a row repeat each other. -/
theorem repeats_of_rows_eq_nil {a b : Answer} (ha : a.rows = []) (hb : b.rows = []) :
    b.Repeats a where
  rows := by rw [ha, hb]
  filter h := absurd ha h
  sort h := absurd ha h
  intent h := absurd ha h
  summaryText h := absurd ha h

theorem repeats_ofData_ownTable :
    (ofData settings query ((ofData settings query t).ownTable t)).Repeats
      (ofData settings query t) := by
  have hrows : (ofData settings query ((ofData settings query t).ownTable t)).rows.map (·.row)
      = (ofData settings query t).rows.map (·.row) := by
    rw [rows_ofData_ownTable, Table.map_row_placedRows]
    rfl
  refine ⟨hrows, fun _ => ?_, fun _ => ?_, fun _ => ?_, fun _ => ?_⟩
  · rw [filter_ofData, filter_ofData, columns_ownTable]
  · rw [sort_ofData, sort_ofData, columns_ownTable]
  · rw [intent_ofData, intent_ofData]
  · rw [summaryText, summaryText, summary_ofData, summary_ofData, hrows, columns_ownTable]

end Answer

/-- **Asking a question again on its own answer changes nothing.**  A question
with a word has an answer about any table, and it has one about the rows of
that answer: the same rows in the same order, read and summarized the same way
unless there are none.  The columns may mix kinds of cells. -/
theorem interpret_ownTable (settings : QuerySettings) {query : String} (t : Table)
    (hquery : HasWord query) :
    ∃ a, interpret settings (some query) (some t) = .ok a ∧
      ∃ b, interpret settings (some query) (some (a.ownTable t)) = .ok b ∧ b.Repeats a := by
  rcases ht : t.hasData with - | -
  · -- no data: no rows, so no data again
    refine ⟨_, interpret_of_noData hquery ht, _, interpret_of_noData hquery ?_,
      Answer.repeats_of_rows_eq_nil rfl rfl⟩
    exact Bool.and_false _
  · refine ⟨_, interpret_of_hasData hquery ht, ?_⟩
    rcases hown : ((Answer.ofData settings (stripped query) t).ownTable t).hasData with - | -
    · -- nothing was selected, so there is no data the second time
      have hnil : (Answer.ofData settings (stripped query) t).rows = [] := by
        by_contra hne
        refine ne_true_of_eq_false hown (Table.hasData_iff.2 ⟨(Table.hasData_iff.1 ht).1, ?_⟩)
        exact fun h => hne (List.map_eq_nil_iff.1 h)
      exact ⟨_, interpret_of_noData hquery hown, Answer.repeats_of_rows_eq_nil hnil rfl⟩
    · exact ⟨_, interpret_of_hasData hquery hown, Answer.repeats_ofData_ownTable⟩

/-- Lengths, some measured and some noted: each comes before the next, and the
last before the first. -/
def mixedLengths : Table where
  columns := ["length"]
  rows := [[("length", .text "10")], [("length", .text "1a")], [("length", .text "9")]]
  name := some "parts"

theorem interpret_ownTable_mixedLengths :
    HasWord " Sort by length " ∧
      ∃ a, interpret {} (some " Sort by length ") (some mixedLengths) = .ok a ∧
        ∃ b, interpret {} (some " Sort by length ") (some (a.ownTable mixedLengths)) = .ok b ∧
          b.Repeats a := by
  have hquery : HasWord " Sort by length " := ⟨'S', by decide, by decide⟩
  exact ⟨hquery, interpret_ownTable {} mixedLengths hquery⟩

end TableQuery
