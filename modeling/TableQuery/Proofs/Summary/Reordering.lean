/-
TableQuery/Proofs/Summary/Reordering.lean

Summaries of the same rows in another order.

Some of a summary does not depend on the order of the rows, and some does.
Which columns have statistics, of how many numbers and between which bounds,
is settled by the numbers themselves; the bounds are equal as numbers, though
a zero may come with either sign.  Totals are left out, for sums are rounded
on the way.  Which columns have a distribution is settled by the texts, and so
are the counts and shares it lists.  The listed texts are not: of equally
frequent texts the earlier ones are listed, so what is said of them here is
that a text which only one order lists is as frequent as the last one listed
(`SameFigures`).

Main result: `Summary.reordered_ofRows`.
-/
import TableQuery.Proofs.Rows.Correspondence
import TableQuery.Proofs.Summary.Statistics
import TableQuery.Proofs.Tally

namespace TableQuery

variable {rows rows' : List Row}

/-! ### Statistics -/

theorem columnNumbers_perm (h : rows.Perm rows') (column : String) :
    (columnNumbers rows column).Perm (columnNumbers rows' column) :=
  h.filterMap _

/-- Statistics of one column with the same count and with bounds that are equal
as numbers. -/
structure ColumnStats.SameRange (s t : ColumnStats) : Prop where
  column : s.column = t.column
  count : s.count = t.count
  minimum : s.minimum.Equal t.minimum
  maximum : s.maximum.Equal t.maximum

/-- A column has statistics in both orders or in neither, with the same range. -/
theorem columnStats?_reordered (h : rows.Perm rows') (column : String) :
    Option.Rel ColumnStats.SameRange (columnStats? rows column) (columnStats? rows' column) := by
  have hperm := columnNumbers_perm h column
  have hnan : ∀ x ∈ columnNumbers rows column, x.isNaN = false :=
    fun x hx => isNaN_of_mem_columnNumbers hx
  rw [columnStats?, columnStats?]
  generalize columnNumbers rows column = xs at hperm hnan ⊢
  generalize columnNumbers rows' column = ys at hperm ⊢
  -- a column without numbers has none in any order; else the extremes keep their size
  rcases xs with - | ⟨x, xs⟩
  · rw [List.nil_perm.1 hperm]
    exact .none
  · rcases ys with - | ⟨y, ys⟩
    · exact absurd hperm.eq_nil (List.cons_ne_nil x xs)
    · exact .some
        { column := rfl
          count := hperm.length_eq
          minimum := leastOf_perm hnan hperm
          maximum := greatestOf_perm hnan hperm }

/-! ### Distributions -/

/-- What a distribution says about a text, whichever text it is. -/
def Frequency.figures (f : Frequency) : Nat × Binary64 := (f.count, f.percentage)

/-- Distributions that list the same counts and shares.  They list the same
texts too, except for texts that are as frequent as the last one listed. -/
structure SameFigures (d e : List Frequency) : Prop where
  figures : d.map Frequency.figures = e.map Frequency.figures
  left : ∀ f ∈ d, f.value ∉ e.map (·.value) → (d.map (·.count)).getLast? = some f.count
  right : ∀ f ∈ e, f.value ∉ d.map (·.value) → (e.map (·.count)).getLast? = some f.count

/-- The frequency of a counted text among so many rows. -/
def Frequency.among (total : Nat) (entry : String × Nat) : Frequency :=
  ⟨entry.1, entry.2, .ofQuotient false (100 * entry.2) total⟩

theorem figures_among (total : Nat) (entry : String × Nat) :
    (Frequency.among total entry).figures
      = (entry.2, Binary64.ofQuotient false (100 * entry.2) total) := by
  rw [Frequency.figures, Frequency.among]

/-- A text that only one of two orders lists is as frequent as the last that it
lists. -/
theorem count_of_value_listed_once {counts counts' : List (String × Nat)} {limit : Int}
    (h : counts.Perm counts') (total : Nat) :
    ∀ f ∈ (mostFrequent limit counts).map (Frequency.among total),
      f.value ∉ ((mostFrequent limit counts').map (Frequency.among total)).map (·.value) →
      (((mostFrequent limit counts).map (Frequency.among total)).map (·.count)).getLast?
        = some f.count := by
  intro f hf hnot
  obtain ⟨entry, hentry, rfl⟩ := List.mem_map.1 hf
  have hmissing : entry ∉ mostFrequent limit counts' := by
    intro hmem
    apply hnot
    rw [List.map_map]
    exact List.mem_map_of_mem hmem
  rw [List.map_map]
  exact count_of_listed_once h hentry hmissing

theorem sameFigures_mostFrequent {counts counts' : List (String × Nat)} (h : counts.Perm counts')
    (limit : Int) (total : Nat) :
    SameFigures ((mostFrequent limit counts).map (Frequency.among total))
      ((mostFrequent limit counts').map (Frequency.among total)) where
  figures := by
    have hfigures : ∀ entries : List (String × Nat),
        (entries.map (Frequency.among total)).map Frequency.figures
          = (entries.map (·.2)).map fun n => (n, Binary64.ofQuotient false (100 * n) total) := by
      intro entries
      rw [List.map_map, List.map_map]
      exact List.map_congr_left fun entry _ => figures_among total entry
    rw [hfigures, hfigures, map_count_mostFrequent h]
  left := count_of_value_listed_once h total
  right := count_of_value_listed_once h.symm total

/-- A column has a distribution in both orders or in neither, with the same
figures. -/
theorem distribution?_reordered (limits : Limits) (h : rows.Perm rows') (column : String) :
    Option.Rel SameFigures (distribution? limits rows column)
      (distribution? limits rows' column) := by
  have htally := tally_perm (h.map fun row => (row.cell column).plainText)
  rw [distribution?, distribution?, htally.length_eq, h.length_eq]
  split
  · exact .none
  · exact .some (sameFigures_mostFrequent htally limits.listedTexts rows'.length)

/-! ### Summaries -/

/-- The same names in the same order, with related values. -/
abbrev NamesakesRelated {α β : Type} (related : α → β → Prop) :
    List (String × α) → List (String × β) → Prop :=
  List.Forall₂ fun a b => a.1 = b.1 ∧ related a.2 b.2

theorem setNamed_related {α β : Type} {related : α → β → Prop} {name : String} {a : α} {b : β}
    (hab : related a b) {xs : List (String × α)} {ys : List (String × β)}
    (h : NamesakesRelated related xs ys) :
    NamesakesRelated related (setNamed name a xs) (setNamed name b ys) := by
  induction h with
  | nil => exact .cons ⟨rfl, hab⟩ .nil
  | @cons x y xs ys hxy hrest ih =>
    obtain ⟨n, v⟩ := x
    obtain ⟨m, w⟩ := y
    obtain ⟨rfl : n = m, hvw⟩ := hxy
    rw [setNamed, setNamed]
    split
    · exact .cons ⟨rfl, hab⟩ hrest
    · exact .cons ⟨rfl, hvw⟩ ih

/-- Summaries that agree in everything that the order of the rows does not
decide. -/
structure Summary.AgreesUpToTies (s t : Summary) : Prop where
  totalRows : s.totalRows = t.totalRows
  isEmpty : s.isEmpty = t.isEmpty
  numeric : List.Forall₂ ColumnStats.SameRange s.numeric t.numeric
  categorical : NamesakesRelated SameFigures s.categorical t.categorical

/-- **Reordering the rows does not change what a summary says**, apart from the
choice among equally frequent texts and from rounding in totals. -/
theorem Summary.reordered_ofRows (limits : Limits) (columns : List String) (requested : Bool)
    (h : rows.Perm rows') :
    (ofRows limits columns requested rows).AgreesUpToTies
      (ofRows limits columns requested rows') := by
  -- a permutation of no rows has no rows, so both summaries take the same branch
  have hempty : rows.isEmpty = rows'.isEmpty := by
    rw [Bool.eq_iff_iff, List.isEmpty_iff_length_eq_zero, List.isEmpty_iff_length_eq_zero,
      h.length_eq]
  have hcolumns : List.Forall₂ Eq columns columns := List.forall₂_same.2 fun _ _ => rfl
  rw [ofRows, ofRows, hempty, h.length_eq]
  split
  · exact ⟨rfl, Eq.refl true, .nil, .nil⟩
  · refine ⟨rfl, Eq.refl false, ?_, ?_⟩
    · refine List.rel_filterMap ?_ hcolumns
      rintro column _ rfl
      exact columnStats?_reordered h column
    · -- a column that is named twice has one distribution
      have hlisted : NamesakesRelated SameFigures
          (columns.filterMap fun column => (distribution? limits rows column).map (column, ·))
          (columns.filterMap fun column =>
            (distribution? limits rows' column).map (column, ·)) := by
        refine List.rel_filterMap ?_ hcolumns
        rintro column _ rfl
        dsimp only
        have hrel := distribution?_reordered limits h column
        generalize distribution? limits rows column = d? at hrel ⊢
        generalize distribution? limits rows' column = e? at hrel ⊢
        cases hrel with
        | none => exact .none
        | some hde => exact .some ⟨rfl, hde⟩
      -- the distributions are put under their names in the same order
      refine List.rel_foldl ?_ .nil hlisted
      rintro all all' hall ⟨column, d⟩ ⟨column', e⟩ ⟨rfl : column = column', hde⟩
      exact setNamed_related hde hall

/-- Two doors, each state once, with zeros of both signs. -/
def doors : List Row :=
  [[("state", .text "open"), ("gap", .text "0")], [("state", .text "shut"), ("gap", .text "-0")]]

/-- With one text listed, each order lists another text, and each finds another
zero first. -/
theorem Summary.reordered_ofRows_doors :
    doors.Perm doors.reverse ∧
      (ofRows { listedTexts := 1 } ["state", "gap"] true doors).AgreesUpToTies
        (ofRows { listedTexts := 1 } ["state", "gap"] true doors.reverse) := by
  have h : doors.Perm doors.reverse := (List.reverse_perm doors).symm
  exact ⟨h, reordered_ofRows { listedTexts := 1 } ["state", "gap"] true h⟩

end TableQuery
