/-
TableQuery/Proofs/Rows/Ties.lean

Rows that compare equal, and when a sort leaves them in their order.

A sort keeps ties if it never moves a row past one that compares equal
(`KeepsTies`).  Arranging keeps them wherever comparison is transitive, because
there it is the stable arrangement.  Everywhere else it breaks some.  Three
cells among which comparison is not transitive stand in a circle: the first may
stand in front of the second and the second in front of the third, but the
third comes strictly before the first.  Five rows with the second, the first,
the third, the second and the third of these cells are then enough.  Which two
of them change places depends on which neighbours in the circle are level, and
so does the way in which they do: they stand in a descending run that is
reversed, or the search for the place of the later one turns aside at a third
row (`exists_swapped`).

Main result: `SortOrder.keepsTies_iff`.
-/
import Mathlib.Data.Fin.VecNotation
import TableQuery.Proofs.Rows.Sorting

namespace TableQuery

/-! ### Circles -/

/-- A comparison of three elements in a circle.  The third comes before the
first; whether the first comes before the second, and the second before the
third, is open. -/
def circle (firstToSecond secondToThird : Bool) : Fin 3 → Fin 3 → Bool
  | 0, 1 => firstToSecond
  | 1, 2 => secondToThird
  | 2, 0 => true
  | _, _ => false

/-- The elements of a circle, some of them twice, in a sequence of which no
stable arrangement is found. -/
def walk : Fin 5 → Fin 3 := ![1, 0, 2, 1, 2]

/-- Arranging the walk round a circle swaps two level elements. -/
theorem exists_swapped (firstToSecond secondToThird : Bool) :
    let before := fun i j => circle firstToSecond secondToThird (walk i) (walk j)
    ∃ i j : Fin 5, [i, j].Sublist (List.finRange 5) ∧ level before i j = true ∧
      ¬ [i, j].Sublist (arrange before (List.finRange 5)) := by
  revert firstToSecond secondToThird
  decide +kernel

/-- Three elements that stand in a circle are compared as one. -/
theorem before_eq_circle {α : Type} {before : α → α → Bool} {a b c : α} (hb : OneWay before)
    (hba : before b a = false) (hcb : before c b = false) (hca : before c a = true) :
    ∀ i j, before (![a, b, c] i) (![a, b, c] j) = circle (before a b) (before b c) i j
  | 0, 0 => hb.irrefl a
  | 0, 1 => rfl
  | 0, 2 => hb c a hca
  | 1, 0 => hba
  | 1, 1 => hb.irrefl b
  | 1, 2 => rfl
  | 2, 0 => hca
  | 2, 1 => hcb
  | 2, 2 => hb.irrefl c

namespace SortOrder

variable (s : SortOrder) {rows : List PlacedRow} {cells : List Cell}

/-- Of two rows that compare equal, the one in front stays in front. -/
def KeepsTies (rows sorted : List PlacedRow) : Prop :=
  ∀ ⦃p q⦄, [p, q].Sublist rows → s.tied p q = true → [p, q].Sublist sorted

variable {s}

/-! ### Where comparison is transitive -/

theorem keepsTies_apply (h : Cell.TransitiveAmong (s.cellsOf rows)) :
    s.KeepsTies rows (apply (some s) rows) := by
  intro p q hpq htied
  rw [← level_beforeRow] at htied
  rw [apply_eq_arrange]
  have harranged := stablyArranged_arrange (consistentOn_beforeRow h)
  exact (harranged.pair_sublist_iff s.oneWay_beforeRow htied).2 hpq

/-! ### Where it is not -/

/-- Where comparison is not transitive there is a circle, in either direction of
a sort. -/
theorem exists_circle (s : SortOrder) (h : ¬ Cell.TransitiveAmong cells) :
    ∃ a ∈ cells, ∃ b ∈ cells, ∃ c ∈ cells, s.before b.key a.key = false ∧
      s.before c.key b.key = false ∧ s.before c.key a.key = true := by
  simp only [Cell.TransitiveAmong, not_forall] at h
  obtain ⟨a, ha, b, hb, c, hc, hab, hbc, hac⟩ := h
  simp only [← Bool.not_eq_false (s.before _ _), before_key_eq_false_iff]
  by_cases hdescending : s.descending = true
  · -- the circle is gone round the other way
    simp only [if_pos hdescending]
    exact ⟨c, hc, b, hb, a, ha, hbc, hab, hac⟩
  · simp only [if_neg hdescending]
    exact ⟨a, ha, b, hb, c, hc, hab, hbc, hac⟩

/-- A row for each step of the walk round three cells. -/
def walkRow (column : String) (corners : Fin 3 → Cell) (i : Fin 5) : PlacedRow :=
  ⟨i, [(column, corners (walk i))]⟩

theorem cell_walkRow (column : String) (corners : Fin 3 → Cell) (i : Fin 5) :
    (walkRow column corners i).row.cell column = corners (walk i) := by
  rw [walkRow, Row.cell, getNamed?, if_pos rfl, Option.getD_some]

theorem walkRow_injective (column : String) (corners : Fin 3 → Cell) :
    Function.Injective (walkRow column corners) :=
  fun _ _ h => Fin.ext (congrArg PlacedRow.position h)

/-- A sort breaks a tie in the walk round a circle. -/
theorem not_keepsTies_walk {a b c : Cell} (hba : s.before b.key a.key = false)
    (hcb : s.before c.key b.key = false) (hca : s.before c.key a.key = true) :
    let rows := (List.finRange 5).map (walkRow s.column ![a, b, c])
    ¬ s.KeepsTies rows (apply (some s) rows) := by
  intro rows hkeeps
  have honeWay : OneWay fun c d : Cell => s.before c.key d.key :=
    fun c d => s.oneWay_before c.key d.key
  have hcircle : ∀ i j, s.beforeRow (walkRow s.column ![a, b, c] i) (walkRow s.column ![a, b, c] j)
      = circle (s.before a.key b.key) (s.before b.key c.key) (walk i) (walk j) := by
    intro i j
    rw [beforeRow, keyOf, keyOf, cell_walkRow, cell_walkRow]
    exact before_eq_circle honeWay hba hcb hca (walk i) (walk j)
  obtain ⟨i, j, hij, hlevel, hswapped⟩ :=
    exists_swapped (s.before a.key b.key) (s.before b.key c.key)
  have htied : s.tied (walkRow s.column ![a, b, c] i) (walkRow s.column ![a, b, c] j) = true := by
    rw [← level_beforeRow, level, hcircle, hcircle]
    exact hlevel
  have hkept := hkeeps (hij.map _) htied
  rw [apply_eq_arrange, arrange_map] at hkept
  simp only [hcircle] at hkept
  -- a row has its place in the walk as its position
  obtain ⟨steps, hsteps, hmap⟩ := List.sublist_map_iff.1 hkept
  have hsame : [i, j] = steps := (walkRow_injective s.column ![a, b, c]).list_map hmap
  rw [← hsame] at hsteps
  exact hswapped hsteps

/-- **A sort keeps ties exactly where no cell is wedged.**  If no cell of a
column stands, by its text, between two that are numbers in another order, then
every sort of rows with these cells leaves rows that compare equal in their
order.  With a wedged cell there are rows with these cells for which it does
not. -/
theorem keepsTies_iff :
    (∀ rows, (∀ r ∈ rows, r.row.cell s.column ∈ cells) → s.KeepsTies rows (apply (some s) rows)) ↔
      ∀ low ∈ cells, ∀ middle ∈ cells, ∀ high ∈ cells, ¬ Cell.Wedged low middle high := by
  rw [← Cell.transitiveAmong_iff]
  constructor
  · intro hkeeps
    -- where the order is not transitive three cells form a circle, and a walk around it breaks ties
    by_contra htransitive
    obtain ⟨a, ha, b, hb, c, hc, hba, hcb, hca⟩ := exists_circle s htransitive
    refine not_keepsTies_walk hba hcb hca (hkeeps _ fun r hr => ?_)
    obtain ⟨i, -, rfl⟩ := List.mem_map.1 hr
    have hcorner : ∀ k, ![a, b, c] k ∈ cells
      | 0 => ha
      | 1 => hb
      | 2 => hc
    rw [cell_walkRow]
    exact hcorner (walk i)
  -- a transitive order is consistent, and the sort is stable for such orders
  · intro htransitive rows hrows
    refine keepsTies_apply fun c hc d hd e he => ?_
    have hsub : ∀ c ∈ s.cellsOf rows, c ∈ cells := by
      intro c hc
      obtain ⟨r, hr, rfl⟩ := List.mem_map.1 hc
      exact hrows r hr
    exact htransitive c (hsub c hc) d (hsub d hd) e (hsub e he)

/-- Numbers of houses, one of them with a letter. -/
def houses : List PlacedRow :=
  [⟨0, [("house", .text "10")]⟩, ⟨1, [("house", .text "9")]⟩, ⟨2, [("house", .text "1a")]⟩,
    ⟨3, [("house", .text "10")]⟩]

/-- Two rows with the same cell change places.  Each of these rows comes before
the one in front of it, so all of them are reversed. -/
theorem not_keepsTies_houses :
    ¬ KeepsTies ⟨"house", false⟩ houses (apply (some ⟨"house", false⟩) houses) := by
  intro hkeeps
  have hfirst : [houses[0], houses[3]].Sublist houses :=
    .cons_cons _ (.cons _ (.cons _ (.refl _)))
  have htied : tied ⟨"house", false⟩ houses[0] houses[3] = true := by decide +kernel
  have hpositions := (hkeeps hfirst htied).map (·.position)
  have hreversed : (apply (some ⟨"house", false⟩) houses).map (·.position) = [3, 2, 1, 0] := by
    decide +kernel
  rw [hreversed] at hpositions
  exact absurd hpositions (by decide)

end SortOrder

end TableQuery
