/-
TableQuery/Proofs/Rows/Numbering.lean

Sorting by a column of whole numbers.

A cell keeps all digits of a whole number, but it is compared as a binary64
number (`Amount.value`).  Two different numbers may be one number there, from
2^53 on, and then they compare equal and are left as they stand, although their
texts differ.  They are never compared the wrong way round.  So the sorts of a
column of whole numbers are those by value exactly if no two different numbers
of the column have the same nearest binary64 number
(`SortOrder.ordersExactly_iff`), and in particular if none is beyond 2^53.

Main result: `integers_ordered`.
-/
import TableQuery.Proofs.Number.Whole
import TableQuery.Proofs.Rows.Sorting

namespace TableQuery

/-! ### Cells of whole numbers -/

namespace Cell

variable {c d : Cell} {m n : Int}

/-- A cell that was made of a whole number, in either of the forms in which one
is decoded. -/
def HoldsInteger (c : Cell) (n : Int) : Prop :=
  ∃ d : Datum, d.unstored = .integer n ∧ Cell.of d = .ok c

theorem exists_of_ofInt (h : Cell.ofInt n = .ok c) : ∃ hrange, c = .number (.whole n hrange) := by
  rw [Cell.ofInt] at h
  split at h
  · next hrange => exact ⟨hrange, (Except.ok.inj h).symm⟩
  · cases h

/-- Such a cell keeps the number, whatever its length. -/
theorem HoldsInteger.eq_number (h : c.HoldsInteger n) :
    ∃ hrange, c = .number (.whole n hrange) := by
  obtain ⟨d, hd, hof⟩ := h
  -- a whole number comes as it is or in the form in which columns store it
  cases d with
  | integer k =>
    obtain rfl := Datum.integer.inj hd
    exact exists_of_ofInt hof
  | stored v =>
    cases v with
    | integer k =>
      obtain rfl := Datum.integer.inj hd
      exact exists_of_ofInt hof
    | boolean b => cases hd
    | real x => cases hd
  | _ => cases hd

theorem of_integer (h : n.natAbs < integerBound) :
    Cell.of (.integer n) = .ok (.number (.whole n h)) := by
  rw [Cell.of, Cell.ofInt, dif_pos h]

theorem holdsInteger_of_range (h : n.natAbs < integerBound) :
    HoldsInteger (.number (.whole n h)) n :=
  ⟨.integer n, rfl, of_integer h⟩

theorem number?_whole (h : n.natAbs < integerBound) :
    number? (.number (.whole n h)) = some (.ofInt n) := by
  rw [number?, Amount.value]

/-- **Whole numbers are compared rightly, or as equal** if they have the same
nearest binary64 number. -/
theorem order_of_holdsInteger (hc : c.HoldsInteger m) (hd : d.HoldsInteger n) :
    order c d = if Binary64.ofInt m = Binary64.ofInt n then .eq else compare m n := by
  obtain ⟨hm, rfl⟩ := hc.eq_number
  obtain ⟨hn, rfl⟩ := hd.eq_number
  rw [order, Key.order, key, key, number?_whole, number?_whole]
  exact Binary64.order_ofInt hm hn

end Cell

namespace SortOrder

variable {s : SortOrder} {number : PlacedRow → Int} {rows : List PlacedRow}

/-! ### Sorting by value -/

/-- The cells of the sort column were made of whole numbers. -/
def Numbered (s : SortOrder) (number : PlacedRow → Int) (rows : List PlacedRow) : Prop :=
  ∀ r ∈ rows, (r.row.cell s.column).HoldsInteger (number r)

/-- Some rows, sorted by whole numbers: the same rows in the order of their
numbers, those with the same number as they stood. -/
structure SortedByNumber (s : SortOrder) (number : PlacedRow → Int)
    (rows sorted : List PlacedRow) : Prop where
  perm : sorted.Perm rows
  ordered : sorted.Pairwise fun p q =>
    if s.descending then number q ≤ number p else number p ≤ number q
  stable : ∀ n, sorted.filter (number · = n) = rows.filter (number · = n)

theorem Numbered.uniform (h : s.Numbered number rows) : Cell.Uniform (s.cellsOf rows) := by
  left
  intro c hc
  obtain ⟨r, hr, rfl⟩ := List.mem_map.1 hc
  obtain ⟨hrange, hcell⟩ := (h r hr).eq_number
  rw [hcell]
  exact .inr rfl

/-- The rows that compare equal to a row, where comparison is that of the
numbers. -/
theorem filter_tied {p : PlacedRow} {qs : List PlacedRow}
    (h : ∀ q ∈ qs, Cell.order (p.row.cell s.column) (q.row.cell s.column)
      = compare (number p) (number q)) :
    qs.filter (s.tied p) = qs.filter (number · = number p) := by
  refine List.filter_congr fun q hq => ?_
  rw [tied, h q hq]
  exact decide_eq_decide.2 (compare_eq_iff_eq.trans eq_comm)

/-- **A column of whole numbers is sorted by value** if no two different numbers
of it have the same nearest binary64 number. -/
theorem sortedByNumber_apply (h : s.Numbered number rows)
    (hapart : Set.InjOn Binary64.ofInt (number '' {r | r ∈ rows})) :
    s.SortedByNumber number rows (apply (some s) rows) := by
  -- numbers that are held apart as binary64 are compared as integers
  have hcompare : ∀ p ∈ rows, ∀ q ∈ rows,
      Cell.order (p.row.cell s.column) (q.row.cell s.column) = compare (number p) (number q) := by
    intro p hp q hq
    rw [Cell.order_of_holdsInteger (h p hp) (h q hq)]
    split
    · next hsame =>
      have heq := hapart (Set.mem_image_of_mem number hp) (Set.mem_image_of_mem number hq) hsame
      exact (compare_eq_iff_eq.2 heq).symm
    · rfl
  rw [apply_eq_arrange]
  -- so the column is ordered consistently, and the sort is the stable one
  obtain ⟨hperm, hsorted, hstable⟩ :=
    stablyArranged_arrange (consistentOn_beforeRow h.uniform.transitiveAmong)
  refine ⟨hperm, hsorted.imp_of_mem fun {p q} hp hq hpq => ?_, fun n => ?_⟩
  · have hp := hperm.mem_iff.1 hp
    have hq := hperm.mem_iff.1 hq
    rw [beforeRow_eq_false_iff, hcompare p hp q hq, hcompare q hq p hp] at hpq
    simpa only [Std.isLE_compare] using hpq
  -- rows with the same number are those on one level of the comparison
  · by_cases hn : ∃ r ∈ rows, number r = n
    · obtain ⟨r, hr, rfl⟩ := hn
      have hlevel := hstable r hr
      rw [level_beforeRow] at hlevel
      rwa [filter_tied fun q hq => hcompare r hr q (hperm.mem_iff.1 hq),
        filter_tied fun q hq => hcompare r hr q hq] at hlevel
    · -- no row has this number
      have hnone : ∀ r ∈ rows, ¬ decide (number r = n) = true :=
        fun r hr hrn => hn ⟨r, hr, of_decide_eq_true hrn⟩
      rw [List.filter_eq_nil_iff.2 hnone,
        List.filter_eq_nil_iff.2 fun r hr => hnone r (hperm.mem_iff.1 hr)]

/-! ### Numbers that are one -/

/-- Every sort by a column of these whole numbers is the sort by value. -/
def SortsByNumber (numbers : Set Int) : Prop :=
  ∀ (s : SortOrder) (number : PlacedRow → Int) (rows : List PlacedRow), s.Numbered number rows →
    (∀ r ∈ rows, number r ∈ numbers) → s.SortedByNumber number rows (apply (some s) rows)

/-- Two rows with these cells. -/
def pairOf (c d : Cell) : List PlacedRow := [⟨0, [("id", c)]⟩, ⟨1, [("id", d)]⟩]

/-- Of two numbers with the same nearest number, a sort leaves the one in front
that stands there. -/
theorem le_of_sortsByNumber {numbers : Set Int} (h : SortsByNumber numbers) {m n : Int}
    (hm : m ∈ numbers ∧ m.natAbs < integerBound) (hn : n ∈ numbers ∧ n.natAbs < integerBound)
    (hsame : Binary64.ofInt m = Binary64.ofInt n) : m ≤ n := by
  -- two rows with these numbers tie in the comparison, so the sort leaves them in either order
  -- as they come; it must not, unless the first is the smaller one
  let s : SortOrder := ⟨"id", false⟩
  let c : Cell := .number (.whole m hm.2)
  let d : Cell := .number (.whole n hn.2)
  let number : PlacedRow → Int := fun r => if r.position = 0 then m else n
  have hc : c.HoldsInteger m := Cell.holdsInteger_of_range hm.2
  have hd : d.HoldsInteger n := Cell.holdsInteger_of_range hn.2
  have hnumbered : s.Numbered number (pairOf c d) := by
    intro r hr
    rcases List.mem_pair.1 hr with rfl | rfl
    · exact hc
    · exact hd
  have hmem : ∀ r ∈ pairOf c d, number r ∈ numbers := by
    intro r hr
    rcases List.mem_pair.1 hr with rfl | rfl
    · exact hm.1
    · exact hn.1
  have hlevel : Cell.order d c = .eq := by
    rw [Cell.order_of_holdsInteger hd hc, if_pos hsame.symm]
  have hstays : apply (some s) (pairOf c d) = pairOf c d := by
    rw [apply_eq_arrange]
    refine arrange_of_settled (List.isChain_pair.2 ?_)
    show decide (Cell.order d c = .lt) = false
    rw [hlevel]
    rfl
  have hordered := (h s number (pairOf c d) hnumbered hmem).ordered
  rw [hstays] at hordered
  exact List.rel_of_pairwise_cons hordered (List.mem_singleton.2 rfl)

/-- **The sorts of some whole numbers are those by value exactly if no two of
them have the same nearest binary64 number.** -/
theorem sortsByNumber_iff {numbers : Set Int} :
    SortsByNumber numbers ↔
      Set.InjOn Binary64.ofInt {n ∈ numbers | n.natAbs < integerBound} := by
  constructor
  · intro h m hm n hn hsame
    exact Int.le_antisymm (le_of_sortsByNumber h hm hn hsame)
      (le_of_sortsByNumber h hn hm hsame.symm)
  · intro hapart s number rows hnumbered hmem
    refine sortedByNumber_apply hnumbered (hapart.mono ?_)
    rintro _ ⟨r, hr, rfl⟩
    obtain ⟨hrange, -⟩ := (hnumbered r hr).eq_number
    exact ⟨hmem r hr, hrange⟩

/-- Some whole numbers are ordered exactly, in every comparison of two of their
cells and in every sort by a column of them. -/
structure OrdersExactly (numbers : Set Int) : Prop where
  compared : ∀ m ∈ numbers, ∀ n ∈ numbers, ∀ c d, Cell.HoldsInteger c m → Cell.HoldsInteger d n →
    Cell.order c d = compare m n
  sorted : SortsByNumber numbers

theorem ordersExactly_iff {numbers : Set Int} :
    OrdersExactly numbers ↔
      Set.InjOn Binary64.ofInt {n ∈ numbers | n.natAbs < integerBound} := by
  constructor
  · intro h
    exact sortsByNumber_iff.1 h.sorted
  · intro hapart
    refine ⟨?_, sortsByNumber_iff.2 hapart⟩
    intro m hm n hn c d hc hd
    rw [Cell.order_of_holdsInteger hc hd]
    -- two doubles that are one come from one number; others are in the order of the numbers
    split
    · next hsame =>
      obtain ⟨hmrange, -⟩ := hc.eq_number
      obtain ⟨hnrange, -⟩ := hd.eq_number
      exact (compare_eq_iff_eq.2 (hapart ⟨hm, hmrange⟩ ⟨hn, hnrange⟩ hsame)).symm
    · rfl

end SortOrder

/-- **Whole numbers are ordered as far as binary64 numbers tell them apart.**  Two
cells of whole numbers compare as the numbers do, except that they compare equal
if the numbers have the same nearest binary64 number.  So the order of some whole
numbers is exact if and only if no two of them have the same nearest one, and up
to 2^53 no two have. -/
theorem integers_ordered (numbers : Set Int) :
    (∀ m ∈ numbers, ∀ n ∈ numbers, ∀ c d, Cell.HoldsInteger c m → Cell.HoldsInteger d n →
        Cell.order c d = if Binary64.ofInt m = Binary64.ofInt n then .eq else compare m n) ∧
      (SortOrder.OrdersExactly numbers ↔
        Set.InjOn Binary64.ofInt {n ∈ numbers | n.natAbs < integerBound}) ∧
      ((∀ n ∈ numbers, n.natAbs ≤ 2 ^ 53) → SortOrder.OrdersExactly numbers) := by
  refine ⟨fun m _ n _ c d => Cell.order_of_holdsInteger, SortOrder.ordersExactly_iff, ?_⟩
  intro hsmall
  exact SortOrder.ordersExactly_iff.2 (Binary64.ofInt_injOn.mono fun n hn => hsmall n hn.1)

/-- The first two whole numbers that are not told apart.  Each has its cell, and
the cells compare equal; so not every column of whole numbers is sorted by
value. -/
theorem integers_not_ordered :
    (∃ c d, Cell.of (.integer (2 ^ 53 + 1)) = .ok c ∧ Cell.of (.integer (2 ^ 53)) = .ok d ∧
        Cell.order c d = .eq ∧ c.plainText ≠ d.plainText) ∧
      ¬ SortOrder.SortsByNumber {2 ^ 53 + 1, 2 ^ 53} := by
  have hm : (2 ^ 53 + 1 : Int).natAbs < integerBound := by decide +kernel
  have hn : (2 ^ 53 : Int).natAbs < integerBound := by decide +kernel
  have hsame : Binary64.ofInt (2 ^ 53 + 1) = Binary64.ofInt (2 ^ 53) := by decide +kernel
  refine ⟨⟨.number (.whole _ hm), .number (.whole _ hn), Cell.of_integer hm, Cell.of_integer hn,
    ?_, ?_⟩, ?_⟩
  · rw [Cell.order_of_holdsInteger (Cell.holdsInteger_of_range hm) (Cell.holdsInteger_of_range hn),
      if_pos hsame]
  · show integerText (2 ^ 53 + 1) ≠ integerText (2 ^ 53)
    decide +kernel
  · intro hsorts
    have hle := SortOrder.le_of_sortsByNumber hsorts ⟨.inl rfl, hm⟩ ⟨.inr rfl, hn⟩ hsame
    revert hle
    decide

end TableQuery
