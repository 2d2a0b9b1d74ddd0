/-
TableQuery/Proofs/Cell/Consistency.lean

Which cells the comparison orders, and which it does not.

Comparing by number is an order and comparing by text is one, but each pair of
cells is compared by one of the two.  Among three cells this matters only if
exactly two of them have numbers: one comparison is then by number and two are
by text.  It goes wrong exactly if the third cell is wedged between the others
(`Wedged`), its text between their texts and their numbers not in the order of
these, as `1a` is between `10` and `9`.  So comparison is transitive among some
cells if and only if none of them is wedged (`transitiveAmong_iff`).

Nothing is wedged where every cell is empty or has a number, because an empty
text stands in front of all others, nor where no cell has a number
(`Uniform`).  On such cells comparison is the order that a reader expects
(`Uniform.isLE_order_iff`).

Main results: `Cell.order_laws`, `Cell.Uniform.transitiveAmong`.
-/
import TableQuery.Proofs.Cell.Reading
import TableQuery.Proofs.Number.Extremes

namespace TableQuery

/-! ### Numbers -/

namespace Binary64

theorem isLE_order {x y : Binary64} : (order x y).isLE = true ↔ less y x = false := by
  rw [order]
  rcases hxy : less x y with - | -
  · rcases less y x with - | -
    · decide
    · decide
  · rw [less_asymm hxy]
    decide

/-- Only numbers are less than others. -/
theorem isNaN_of_less {x y : Binary64} (h : less x y = true) :
    x.isNaN = false ∧ y.isNaN = false := by
  cases x with
  | nan => cases y <;> cases h
  | _ =>
    cases y with
    | nan => cases h
    | _ => exact ⟨rfl, rfl⟩

/-- Not to be less is transitive, as long as the number in the middle is one. -/
theorem not_less_trans {x y z : Binary64} (hy : y.isNaN = false) (hyx : less y x = false)
    (hzy : less z y = false) : less z x = false := by
  rcases hzx : less z x with - | -
  · rfl
  · -- `y` would have to be at once below `z` and above `x`
    rcases hxy : less x y with - | -
    · obtain ⟨hz, hx⟩ := isNaN_of_less hzx
      have hequal : x.Equal y := equal_of_not_less hx hy hxy hyx
      rw [(equal_refl hz).less_congr hequal, hzy] at hzx
      cases hzx
    · rw [less_trans hzx hxy] at hzy
      cases hzy

end Binary64

/-! ### Texts -/

theorem isLE_compare_text {s t : String} : (compare s t).isLE = true ↔ s ≤ t :=
  isLE_compareOfLessAndEq String.le_antisymm String.not_le String.le_total

theorem empty_le_text (s : String) : "" ≤ s := List.not_lt_nil s.toList

theorem text_le_empty {s : String} : s ≤ "" ↔ s = "" := by
  constructor
  · intro h
    exact String.le_antisymm h (empty_le_text s)
  · rintro rfl
    exact empty_le_text ""

namespace Cell

variable {a b c d low middle high : Cell} {x y : Binary64}

/-! ### The two comparisons -/

/-- Two cells with numbers are compared by number. -/
theorem isLE_order_of_numbers (hc : c.number? = some x) (hd : d.number? = some y) :
    (order c d).isLE = true ↔ y.less x = false := by
  rw [order, Key.order, key, key, hc, hd]
  exact Binary64.isLE_order

/-- Two cells of which one has no number are compared by text. -/
theorem order_of_texts (h : c.number? = none ∨ d.number? = none) :
    order c d = compare c.plainText d.plainText := by
  rw [order, Key.order, key, key]
  rcases h with hc | hd
  · rw [hc]
  · rw [hd]
    cases c.number? <;> rfl

theorem isLE_order_of_texts (h : c.number? = none ∨ d.number? = none) :
    (order c d).isLE = true ↔ c.plainText ≤ d.plainText := by
  rw [order_of_texts h, isLE_compare_text]

theorem order_swap (c d : Cell) : order c d = (order d c).swap := Key.order_swap c.key d.key

theorem order_self (c : Cell) : order c c = .eq := by
  have hswap := order_swap c c
  generalize order c c = o at hswap ⊢
  cases o
  · cases hswap
  · rfl
  · cases hswap

/-! ### Transitivity -/

/-- Comparison is transitive among some cells. -/
def TransitiveAmong (cells : List Cell) : Prop :=
  ∀ a ∈ cells, ∀ b ∈ cells, ∀ c ∈ cells,
    (order a b).isLE = true → (order b c).isLE = true → (order a c).isLE = true

/-- A cell without a number whose text stands between the texts of two others,
which have numbers that are not in the order of their texts. -/
structure Wedged (low middle high : Cell) : Prop where
  noNumber : middle.number? = none
  above : low.plainText ≤ middle.plainText
  below : middle.plainText ≤ high.plainText
  apart : low.plainText ≠ high.plainText
  reversed : ∃ x y, low.number? = some x ∧ high.number? = some y ∧ x.less y = false

/-- **Comparison is transitive on three cells of which none is wedged** between
the next two of them, taken in a circle. -/
theorem isLE_trans_of_not_wedged (hb : ¬ Wedged a b c) (hc : ¬ Wedged b c a)
    (ha : ¬ Wedged c a b) (hab : (order a b).isLE = true) (hbc : (order b c).isLE = true) :
    (order a c).isLE = true := by
  by_contra hac
  rcases hy : b.number? with - | y
  · -- both comparisons are by text, so the third one is by number
    have htexts := String.le_trans ((isLE_order_of_texts (.inr hy)).1 hab)
      ((isLE_order_of_texts (.inl hy)).1 hbc)
    rcases hx : a.number? with - | x
    · exact hac ((isLE_order_of_texts (.inl hx)).2 htexts)
    · rcases hz : c.number? with - | z
      · exact hac ((isLE_order_of_texts (.inr hz)).2 htexts)
      · rw [isLE_order_of_numbers hx hz, Bool.not_eq_false] at hac
        have hasymm := Binary64.less_asymm hac
        refine hb ⟨hy, (isLE_order_of_texts (.inr hy)).1 hab, (isLE_order_of_texts (.inl hy)).1 hbc,
          fun heq => ?_, x, z, hx, hz, hasymm⟩
        -- numbers with the same text are equal
        have hequal := equal_of_plainText_eq hx hz heq
        rw [hequal.symm.less_congr hequal, hasymm] at hac
        cases hac
  · -- if one of the others has no number, that cell is the wedged one
    rcases hx : a.number? with - | x
    · rw [isLE_order_of_texts (.inl hx), String.not_le] at hac
      have habove := (isLE_order_of_texts (.inl hx)).1 hab
      rcases hz : c.number? with - | z
      · exact String.not_le.2 hac (String.le_trans habove ((isLE_order_of_texts (.inr hz)).1 hbc))
      · refine ha ⟨hx, Std.le_of_lt hac, habove, fun heq => ?_, z, y, hz, hy,
          (isLE_order_of_numbers hy hz).1 hbc⟩
        exact String.not_le.2 hac (heq ▸ habove)
    · rcases hz : c.number? with - | z
      · rw [isLE_order_of_texts (.inr hz), String.not_le] at hac
        have hbelow := (isLE_order_of_texts (.inr hz)).1 hbc
        refine hc ⟨hz, hbelow, Std.le_of_lt hac, fun heq => ?_, y, x, hy, hx,
          (isLE_order_of_numbers hx hy).1 hab⟩
        exact String.not_le.2 hac (heq ▸ hbelow)
      · -- three numbers
        refine hac ((isLE_order_of_numbers hx hz).2 ?_)
        exact Binary64.not_less_trans (isNaN_of_number? hy) ((isLE_order_of_numbers hx hy).1 hab)
          ((isLE_order_of_numbers hy hz).1 hbc)

/-- A wedged cell and the two that it stands between are compared in a
circle. -/
theorem Wedged.circle (h : Wedged low middle high) :
    (order low middle).isLE = true ∧ (order middle high).isLE = true ∧
      (order high low).isLE = true := by
  obtain ⟨x, y, hx, hy, hless⟩ := h.reversed
  exact ⟨(isLE_order_of_texts (.inr h.noNumber)).2 h.above,
    (isLE_order_of_texts (.inl h.noNumber)).2 h.below, (isLE_order_of_numbers hy hx).2 hless⟩

/-- **Comparison is transitive among some cells exactly if none of them is
wedged** between two of them. -/
theorem transitiveAmong_iff {cells : List Cell} :
    TransitiveAmong cells ↔
      ∀ low ∈ cells, ∀ middle ∈ cells, ∀ high ∈ cells, ¬ Wedged low middle high := by
  constructor
  · intro h low hlow middle hmiddle high hhigh hwedged
    -- going round the circle, all three texts are the same
    obtain ⟨hlm, hmh, hhl⟩ := hwedged.circle
    have hhm := h high hhigh low hlow middle hmiddle hhl hlm
    have hml := h middle hmiddle high hhigh low hlow hmh hhl
    rw [isLE_order_of_texts (.inr hwedged.noNumber)] at hhm
    rw [isLE_order_of_texts (.inl hwedged.noNumber)] at hml
    exact hwedged.apart (String.le_antisymm (String.le_trans hwedged.above hwedged.below)
      (String.le_trans hhm hml))
  · intro h a ha b hb c hc
    exact isLE_trans_of_not_wedged (h a ha b hb c hc) (h b hb c hc a ha) (h c hc a ha b hb)

/-- **What the comparison of cells is.**  Every cell is level with itself,
comparing the other way round swaps the outcome, and among some cells
comparison is transitive, and with that a total preorder, exactly if none of
them is wedged between two of them. -/
theorem order_laws :
    (∀ c, order c c = .eq) ∧ (∀ c d, order c d = (order d c).swap) ∧
      ∀ cells, TransitiveAmong cells ↔
        ∀ low ∈ cells, ∀ middle ∈ cells, ∀ high ∈ cells, ¬ Wedged low middle high :=
  ⟨order_self, order_swap, fun _ => transitiveAmong_iff⟩

/-- Three texts, each of which comes before the next, and the last of which
comes before the first. -/
theorem order_circular :
    ∃ a b c, Cell.of (.text "10") = .ok a ∧ Cell.of (.text "1a") = .ok b ∧
      Cell.of (.text "9") = .ok c ∧ order a b = .lt ∧ order b c = .lt ∧ order a c = .gt :=
  ⟨.text "10", .text "1a", .text "9", rfl, rfl, rfl, by decide +kernel⟩

/-! ### Cells of one kind -/

/-- Cells that are all empty or numbers, or none of which is a number. -/
def Uniform (cells : List Cell) : Prop :=
  (∀ c ∈ cells, c.isEmpty = true ∨ c.number?.isSome = true) ∨ ∀ c ∈ cells, c.number? = none

instance (cells : List Cell) : Decidable (Uniform cells) :=
  inferInstanceAs (Decidable (_ ∨ _))

theorem plainText_of_isEmpty (h : c.isEmpty = true) : c.plainText = "" := by
  rwa [isEmpty_eq_plainText, decide_eq_true_eq] at h

/-- An empty cell has no number. -/
theorem number?_of_isEmpty (h : c.isEmpty = true) : c.number? = none := by
  cases c with
  | text s =>
    obtain rfl : s = "" := plainText_of_isEmpty h
    decide
  | number a => cases h
  | boolean b => cases h
  | absent => rfl

theorem plainText_ne_empty_of_number? (h : c.number? = some x) : c.plainText ≠ "" := by
  intro hempty
  rw [number?_of_isEmpty (by rw [isEmpty_eq_plainText, hempty, decide_eq_true rfl])] at h
  cases h

/-- **Comparison is transitive among cells of one kind.** -/
theorem Uniform.transitiveAmong {cells : List Cell} (h : Uniform cells) :
    TransitiveAmong cells := by
  -- a cell that is wedged between two numbers is all that breaks transitivity
  refine transitiveAmong_iff.2 fun low hlow middle hmiddle high hhigh hwedged => ?_
  obtain ⟨x, y, hx, hy, -⟩ := hwedged.reversed
  rcases h with hnumbers | htexts
  · rcases hnumbers middle hmiddle with hempty | hnumber
    · -- no number stands in front of an empty text
      have habove := hwedged.above
      rw [plainText_of_isEmpty hempty, text_le_empty] at habove
      exact plainText_ne_empty_of_number? hx habove
    · rw [hwedged.noNumber] at hnumber
      cases hnumber
  · rw [htexts low hlow] at hx
    cases hx

/-- The order of cells of one kind: empty cells first, numbers by value, other
texts by code point. -/
inductive AtMost (c d : Cell) : Prop where
  | empty (h : c.isEmpty = true)
  | numbers {x y : Binary64} (hc : c.number? = some x) (hd : d.number? = some y)
      (h : y.less x = false)
  | texts (hc : c.number? = none) (hd : d.number? = none) (h : c.plainText ≤ d.plainText)

/-- **Comparison of cells of one kind is their order.** -/
theorem Uniform.isLE_order_iff {cells : List Cell} (h : Uniform cells) (hc : c ∈ cells)
    (hd : d ∈ cells) : (order c d).isLE = true ↔ c.AtMost d := by
  constructor
  · intro hle
    -- cells of a uniform column are numbers and empty cells, or none of them is a number
    rcases h with hnumbers | htexts
    · rcases hnumbers c hc with hempty | hx
      · exact .empty hempty
      · obtain ⟨x, hx⟩ := Option.isSome_iff_exists.1 hx
        rcases hnumbers d hd with hempty | hy
        · -- a number does not stand in front of an empty cell
          rw [isLE_order_of_texts (.inr (number?_of_isEmpty hempty)), plainText_of_isEmpty hempty,
            text_le_empty] at hle
          exact absurd hle (plainText_ne_empty_of_number? hx)
        · obtain ⟨y, hy⟩ := Option.isSome_iff_exists.1 hy
          exact .numbers hx hy ((isLE_order_of_numbers hx hy).1 hle)
    · exact .texts (htexts c hc) (htexts d hd) ((isLE_order_of_texts (.inl (htexts c hc))).1 hle)
  · intro hle
    -- each way of standing in front is how `order` decides for such a pair
    cases hle with
    | empty hempty =>
      rw [isLE_order_of_texts (.inl (number?_of_isEmpty hempty)), plainText_of_isEmpty hempty]
      exact empty_le_text _
    | numbers hx hy hless => exact (isLE_order_of_numbers hx hy).2 hless
    | texts hx hy hle => exact (isLE_order_of_texts (.inl hx)).2 hle

end Cell

end TableQuery
