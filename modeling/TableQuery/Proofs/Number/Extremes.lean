/-
TableQuery/Proofs/Number/Extremes.lean

The least and the greatest of some numbers.

Both are found by one pass that keeps the best number so far.  Such a pass
ends at a number that none of the others beats, whatever "beats" means, as
long as it is irreflexive and transitive (`foldl_best`).  Several numbers may
be unbeaten, and the pass keeps the first of them; among numbers other than
`nan`, though, unbeaten ones are equal (`equal_of_not_less`).  So the least
and the greatest number do not depend on the order of the numbers
(`leastOf_perm`, `greatestOf_perm`).
-/
import TableQuery.Proofs.Cell.Order
import TableQuery.Proofs.Number.Equality
import TableQuery.Summary

namespace TableQuery

/-! ### The order of numbers -/

namespace Binary64

theorem less_irrefl (x : Binary64) : less x x = false := by
  rcases h : less x x with - | -
  · rfl
  · have hasymm := less_asymm h
    rw [h] at hasymm
    cases hasymm

theorem less_trans {x y z : Binary64} (hxy : less x y = true) (hyz : less y z = true) :
    less x z = true := by
  cases y with
  | nan => cases x <;> cases hxy
  | infinite m =>
    -- nothing is beyond an infinity on its own side
    cases m with
    | false => cases z <;> simp [less] at hyz
    | true => cases x <;> simp [less] at hxy
  | finite m v hv =>
    cases x with
    | nan => cases hxy
    | infinite n =>
      obtain rfl : n = true := hxy
      cases z with
      | finite k w hw => rfl
      | infinite k => exact hyz
      | nan => cases hyz
    | finite n u hu =>
      cases z with
      | finite k w hw =>
        simp only [less, decide_eq_true_eq] at hxy hyz ⊢
        omega
      | infinite k => exact hyz
      | nan => cases hyz

/-- Numbers of which neither is less than the other are equal. -/
theorem equal_of_not_less {x y : Binary64} (hx : x.isNaN = false) (hy : y.isNaN = false)
    (hxy : less x y = false) (hyx : less y x = false) : x.Equal y := by
  cases x with
  | nan => cases hx
  | finite n u hu =>
    cases y with
    | nan => cases hy
    | finite m v hv =>
      simp only [less, decide_eq_false_iff_not] at hxy hyx
      exact .finite (by omega)
    | infinite m =>
      -- a finite number lies below one infinity and above the other
      cases m with
      | false => cases hxy
      | true => cases hyx
  | infinite n =>
    cases y with
    | nan => cases hy
    | finite m v hv =>
      cases n with
      | false => cases hyx
      | true => cases hxy
    | infinite m =>
      cases n <;> cases m <;> simp [less] at hxy hyx
      · exact .infinite false
      · exact .infinite true

/-- The numeric order with equality, under which nothing compares with `nan`. -/
def AtMost (x y : Binary64) : Prop := x.less y = true ∨ x.Equal y

theorem atMost_iff {x y : Binary64} (hx : x.isNaN = false) (hy : y.isNaN = false) :
    x.AtMost y ↔ y.less x = false := by
  constructor
  · rintro (hless | hequal)
    · exact less_asymm hless
    · rw [hequal.symm.less_congr (hequal.trans hequal.symm)]
      exact less_irrefl x
  · intro hnot
    rcases hless : x.less y with - | -
    · exact .inr (equal_of_not_less hx hy hless hnot)
    · exact .inl hless

end Binary64

/-! ### Keeping the best so far -/

section Best

variable {α : Type}

/-- A pass that keeps the best so far ends at one of the elements, which none
of them beats. -/
theorem foldl_best (beats : α → α → Bool) (hirrefl : ∀ x, beats x x = false)
    (htrans : ∀ x y z, beats x y = true → beats y z = true → beats x z = true)
    (first : α) (others : List α) :
    let best := others.foldl (fun best x => if beats x best then x else best) first
    best ∈ first :: others ∧ ∀ y ∈ first :: others, beats y best = false := by
  -- the best so far is compared with one more element at the end
  induction others using List.reverseRecOn with
  | nil =>
    refine ⟨List.mem_cons_self, fun y hy => ?_⟩
    rw [List.mem_singleton.1 hy]
    exact hirrefl first
  | append_singleton others x ih =>
    rw [List.foldl_append, List.foldl_cons, List.foldl_nil, ← List.cons_append]
    generalize others.foldl (fun best x => if beats x best then x else best) first = best at ih ⊢
    obtain ⟨hmem, hbest⟩ := ih
    -- either the old best stays, or the element beats it and takes its place
    rcases hx : beats x best with - | -
    · rw [if_neg Bool.false_ne_true]
      refine ⟨List.mem_append_left _ hmem, fun y hy => ?_⟩
      rcases List.mem_append.1 hy with hy | hy
      · exact hbest y hy
      · rwa [List.mem_singleton.1 hy]
    · rw [if_pos rfl]
      refine ⟨List.mem_append_right _ List.mem_cons_self, fun y hy => ?_⟩
      rcases List.mem_append.1 hy with hy | hy
      · -- what would beat the new best would have beaten the old one
        rcases hyx : beats y x with - | -
        · rfl
        · have hy' := htrans y x best hyx hx
          rw [hbest y hy] at hy'
          cases hy'
      · rw [List.mem_singleton.1 hy]
        exact hirrefl x

end Best

/-! ### The least and the greatest number -/

section Extremes

variable {x y : Binary64} {xs ys : List Binary64}

theorem leastOf_spec (x : Binary64) (xs : List Binary64) :
    leastOf x xs ∈ x :: xs ∧ ∀ y ∈ x :: xs, y.less (leastOf x xs) = false :=
  foldl_best Binary64.less Binary64.less_irrefl
    (fun _ _ _ hxy hyz => Binary64.less_trans hxy hyz) x xs

theorem greatestOf_spec (x : Binary64) (xs : List Binary64) :
    greatestOf x xs ∈ x :: xs ∧ ∀ y ∈ x :: xs, (greatestOf x xs).less y = false :=
  foldl_best (fun a b : Binary64 => b.less a) Binary64.less_irrefl
    (fun _ _ _ hxy hyz => Binary64.less_trans hyz hxy) x xs

/-- **The least number does not depend on the order.** -/
theorem leastOf_perm (hnan : ∀ z ∈ x :: xs, z.isNaN = false) (h : (x :: xs).Perm (y :: ys)) :
    (leastOf x xs).Equal (leastOf y ys) := by
  obtain ⟨hx, hleast⟩ := leastOf_spec x xs
  obtain ⟨hy, hleast'⟩ := leastOf_spec y ys
  refine Binary64.equal_of_not_less (hnan _ hx) (hnan _ (h.mem_iff.2 hy)) ?_ ?_
  · exact hleast' _ (h.mem_iff.1 hx)
  · exact hleast _ (h.mem_iff.2 hy)

/-- **The greatest number does not depend on the order.** -/
theorem greatestOf_perm (hnan : ∀ z ∈ x :: xs, z.isNaN = false)
    (h : (x :: xs).Perm (y :: ys)) : (greatestOf x xs).Equal (greatestOf y ys) := by
  obtain ⟨hx, hgreatest⟩ := greatestOf_spec x xs
  obtain ⟨hy, hgreatest'⟩ := greatestOf_spec y ys
  refine Binary64.equal_of_not_less (hnan _ hx) (hnan _ (h.mem_iff.2 hy)) ?_ ?_
  · exact hgreatest _ (h.mem_iff.2 hy)
  · exact hgreatest' _ (h.mem_iff.1 hx)

end Extremes

end TableQuery
