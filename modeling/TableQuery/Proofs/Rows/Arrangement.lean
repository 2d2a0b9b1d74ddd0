/-
TableQuery/Proofs/Rows/Arrangement.lean

What arranging a list guarantees, whatever the comparison.

A comparison of mixed cells need not be transitive, so the usual notion of a
sorted list is not available.  What remains is a notion of neighbours:
`Settled` says that no element comes before the one in front of it.

Main results: arranging permutes (`arrange_perm`), it settles
(`settled_arrange`), and it leaves a settled list as it is
(`arrange_of_settled`).  Only the second has a hypothesis, that no two
elements come before each other.  It is consumed at two places: where a
descending run is reversed, and where an element is put in front of one that
it comes before.  Transitivity is not needed for any of them, because binary
search ends between two neighbours with both of which it has compared the
element (`placeBetween_spec`); with it, a settled list is sorted
(`pairwise_arrange`).
-/
import Mathlib.Data.List.Chain
import TableQuery.Rows.Arrangement

namespace TableQuery

variable {α : Type} {before : α → α → Bool}

/-- No element comes before the one in front of it. -/
def Settled (before : α → α → Bool) (xs : List α) : Prop :=
  xs.IsChain fun p q => before q p = false

/-- No two elements come before each other. -/
def OneWay (before : α → α → Bool) : Prop :=
  ∀ x y, before x y = true → before y x = false

/-- A comparison is consistent: no two elements come before each other, and not
to come before is transitive. -/
structure Consistent (before : α → α → Bool) : Prop where
  oneWay : OneWay before
  trans : ∀ ⦃x y z⦄, before y x = false → before z y = false → before z x = false

/-- Under a consistent comparison neighbours in order are enough for all
pairs. -/
theorem Consistent.pairwise_of_settled (h : Consistent before) {xs : List α}
    (hxs : Settled before xs) : xs.Pairwise fun p q => before q p = false := by
  have : IsTrans α fun p q => before q p = false := ⟨fun _ _ _ => @h.trans _ _ _⟩
  exact List.isChain_iff_pairwise.1 hxs

/-! ### The leading run -/

theorem spanAdjacent_append (related : α → α → Bool) (x : α) (xs : List α) :
    (spanAdjacent related x xs).1 ++ (spanAdjacent related x xs).2 = xs := by
  induction xs generalizing x with
  | nil => rfl
  | cons y ys ih =>
    rw [spanAdjacent]
    by_cases h : related x y
    · rw [if_pos h, List.cons_append, ih]
    · rw [if_neg h, List.nil_append]

theorem isChain_spanAdjacent (related : α → α → Bool) (x : α) (xs : List α) :
    (x :: (spanAdjacent related x xs).1).IsChain fun p q => related p q = true := by
  induction xs generalizing x with
  | nil => exact .singleton x
  | cons y ys ih =>
    rw [spanAdjacent]
    by_cases h : related x y
    · rw [if_pos h]
      exact .cons_cons h (ih y)
    · rw [if_neg h]
      exact .singleton x

/-- A chain is one run. -/
theorem spanAdjacent_of_isChain {related : α → α → Bool} {x : α} {xs : List α}
    (h : (x :: xs).IsChain fun p q => related p q = true) :
    spanAdjacent related x xs = (xs, []) := by
  induction xs generalizing x with
  | nil => rfl
  | cons y ys ih =>
    obtain ⟨hxy, hys⟩ := List.isChain_cons_cons.1 h
    rw [spanAdjacent, if_pos hxy, ih hys]

theorem leadingRun_perm (before : α → α → Bool) (xs : List α) :
    ((leadingRun before xs).1 ++ (leadingRun before xs).2).Perm xs := by
  rcases xs with - | ⟨x, - | ⟨y, rest⟩⟩
  · exact .nil
  · exact .refl _
  · rw [leadingRun]
    split
    · refine ((List.reverse_perm _).append_right _).trans ?_
      rw [List.cons_append, spanAdjacent_append]
    · rw [List.cons_append, spanAdjacent_append]

theorem settled_leadingRun (hb : OneWay before) (xs : List α) :
    Settled before (leadingRun before xs).1 := by
  rcases xs with - | ⟨x, - | ⟨y, rest⟩⟩
  · exact .nil
  · exact .singleton x
  · rw [leadingRun]
    -- a descending run is strict, so reversing it leaves nothing before its predecessor
    split
    · refine List.isChain_reverse.2 ?_
      refine (isChain_spanAdjacent (fun p q => before q p) x (y :: rest)).imp ?_
      intro p q h
      exact hb q p h
    · refine (isChain_spanAdjacent (fun p q => !before q p) x (y :: rest)).imp ?_
      intro p q h
      rwa [Bool.not_eq_true'] at h

/-- A settled list is its own leading run. -/
theorem leadingRun_of_settled {xs : List α} (h : Settled before xs) :
    leadingRun before xs = (xs, []) := by
  rcases xs with - | ⟨x, - | ⟨y, rest⟩⟩
  · rfl
  · rfl
  · obtain ⟨hxy, -⟩ := List.isChain_cons_cons.1 h
    have hrun : (x :: y :: rest).IsChain fun p q => (!before q p) = true :=
      h.imp fun p q hpq => by rw [hpq, Bool.not_false]
    rw [leadingRun, hxy, if_neg Bool.false_ne_true, spanAdjacent_of_isChain hrun]

/-! ### Binary search -/

/-- An element fits at a place: it does not come before what stands in front
of it, and it comes before what stands behind. -/
def FitsAfter (before : α → α → Bool) (x : α) (xs : List α) (k : Nat) : Prop :=
  ∀ y ∈ (xs.take k).getLast?, before x y = false

def FitsBefore (before : α → α → Bool) (x : α) (xs : List α) (k : Nat) : Prop :=
  ∀ y ∈ (xs.drop k).head?, before x y = true

theorem fitsAfter_zero (x : α) (xs : List α) : FitsAfter before x xs 0 := by
  intro y hy
  rw [List.take_zero, List.getLast?_nil] at hy
  cases hy

theorem fitsBefore_length (x : α) (xs : List α) : FitsBefore before x xs xs.length := by
  intro y hy
  rw [List.drop_length, List.head?_nil] at hy
  cases hy

/-- Binary search keeps that the element fits behind the lower bound and in
front of the upper one, so it ends where the element fits on both sides. -/
theorem placeBetween_spec (before : α → α → Bool) (x : α) (sorted : Array α) (low high : Nat)
    (hlh : low ≤ high) (hhigh : high ≤ sorted.size)
    (hafter : FitsAfter before x sorted.toList low)
    (hbefore : FitsBefore before x sorted.toList high) :
    placeBetween before x sorted low high ≤ sorted.size ∧
      FitsAfter before x sorted.toList (placeBetween before x sorted low high) ∧
      FitsBefore before x sorted.toList (placeBetween before x sorted low high) := by
  fun_induction placeBetween before x sorted low high with
  | case1 low high hlt middle hnone =>
    -- the middle is inside the array
    rw [Array.getElem?_eq_none_iff] at hnone
    omega
  | case2 low high hlt middle y hy hxy ih =>
    refine ih (by omega) (by omega) hafter ?_
    intro z hz
    rw [List.head?_drop, Array.getElem?_toList, hy] at hz
    obtain rfl := Option.some.inj hz
    exact hxy
  | case3 low high hlt middle y hy hxy ih =>
    refine ih (by omega) hhigh ?_ hbefore
    intro z hz
    have hlast : (sorted.toList.take (middle + 1)).getLast? = some y := by
      rw [List.getLast?_take, if_neg (Nat.succ_ne_zero _), Nat.add_sub_cancel,
        Array.getElem?_toList, hy, Option.some_or]
    rw [hlast] at hz
    obtain rfl := Option.some.inj hz
    exact eq_false_of_ne_true hxy
  | case4 low high hge =>
    have hle : low = high := by omega
    rw [← hle] at hbefore
    exact ⟨by omega, hafter, hbefore⟩

/-! ### Insertion -/

theorem insertIdx_eq_take_append {xs : List α} {k : Nat} (h : k ≤ xs.length) (x : α) :
    xs.insertIdx k x = xs.take k ++ x :: xs.drop k := by
  induction k generalizing xs with
  | zero => rfl
  | succ k ih =>
    cases xs with
    | nil => exact absurd h (Nat.not_succ_le_zero k)
    | cons y ys =>
      rw [List.insertIdx_succ_cons, ih (Nat.le_of_succ_le_succ h)]
      rfl

/-- Binary search finds a place inside the list at which the element fits. -/
theorem placeBetween_fits (before : α → α → Bool) (x : α) (sorted : Array α) :
    placeBetween before x sorted 0 sorted.size ≤ sorted.size ∧
      FitsAfter before x sorted.toList (placeBetween before x sorted 0 sorted.size) ∧
      FitsBefore before x sorted.toList (placeBetween before x sorted 0 sorted.size) :=
  placeBetween_spec before x sorted 0 sorted.size (Nat.zero_le _) (Nat.le_refl _)
    (fitsAfter_zero x _) (fitsBefore_length x sorted.toList)

/-- An element is put at the place that binary search finds. -/
theorem toList_insertSorted (before : α → α → Bool) (sorted : Array α) (x : α) :
    (insertSorted before sorted x).toList
      = sorted.toList.take (placeBetween before x sorted 0 sorted.size)
        ++ x :: sorted.toList.drop (placeBetween before x sorted 0 sorted.size) := by
  have hk := (placeBetween_fits before x sorted).1
  rw [insertSorted, Array.insertIdxIfInBounds, dif_pos hk, Array.toList_insertIdx,
    insertIdx_eq_take_append hk]

/-- An element is put between two neighbours with both of which it fits. -/
theorem insertSorted_eq (before : α → α → Bool) (sorted : Array α) (x : α) :
    ∃ k, (insertSorted before sorted x).toList
          = sorted.toList.take k ++ x :: sorted.toList.drop k ∧
      FitsAfter before x sorted.toList k ∧ FitsBefore before x sorted.toList k :=
  ⟨_, toList_insertSorted before sorted x, (placeBetween_fits before x sorted).2⟩

theorem insertSorted_perm (before : α → α → Bool) (sorted : Array α) (x : α) :
    (insertSorted before sorted x).toList.Perm (x :: sorted.toList) := by
  obtain ⟨k, hk, -, -⟩ := insertSorted_eq before sorted x
  rw [hk]
  refine List.perm_middle.trans (.cons x ?_)
  rw [List.take_append_drop]

/-- Insertion keeps a settled array settled. -/
theorem settled_insertSorted (hb : OneWay before) {sorted : Array α}
    (h : Settled before sorted.toList) (x : α) :
    Settled before (insertSorted before sorted x).toList := by
  obtain ⟨k, hk, hafter, hbefore⟩ := insertSorted_eq before sorted x
  rw [hk]
  have hx : Settled before (x :: sorted.toList.drop k) := by
    refine List.IsChain.cons (h.drop k) ?_
    intro y hy
    exact hb x y (hbefore y hy)
  refine List.IsChain.append (h.take k) hx ?_
  intro y hy z hz
  rw [List.head?_cons] at hz
  obtain rfl := Option.some.inj hz
  exact hafter y hy

/-! ### Arranging -/

theorem foldl_insertSorted_perm (before : α → α → Bool) (rest : List α) (sorted : Array α) :
    (rest.foldl (insertSorted before) sorted).toList.Perm (sorted.toList ++ rest) := by
  induction rest generalizing sorted with
  | nil =>
    rw [List.append_nil]
    exact .refl _
  | cons x rest ih =>
    rw [List.foldl_cons]
    refine (ih _).trans ?_
    refine ((insertSorted_perm before sorted x).append_right rest).trans ?_
    exact List.perm_middle.symm

theorem settled_foldl_insertSorted (hb : OneWay before) (rest : List α) {sorted : Array α}
    (h : Settled before sorted.toList) :
    Settled before (rest.foldl (insertSorted before) sorted).toList := by
  induction rest generalizing sorted with
  | nil => exact h
  | cons x rest ih => exact ih (settled_insertSorted hb h x)

/-- Arranging changes the order only. -/
theorem arrange_perm (before : α → α → Bool) (xs : List α) : (arrange before xs).Perm xs :=
  (foldl_insertSorted_perm before _ _).trans (leadingRun_perm before xs)

/-- **Arranging settles**: no element of the result comes before the one in
front of it, also where the comparison is not transitive. -/
theorem settled_arrange (hb : OneWay before) (xs : List α) :
    Settled before (arrange before xs) :=
  settled_foldl_insertSorted hb _ (settled_leadingRun hb xs)

/-- A settled list is left as it is. -/
theorem arrange_of_settled {xs : List α} (h : Settled before xs) : arrange before xs = xs := by
  rw [arrange, leadingRun_of_settled h]
  rfl

/-- Under a consistent comparison an arranged list is sorted: no element comes
before any in front of it. -/
theorem pairwise_arrange (h : Consistent before) (xs : List α) :
    (arrange before xs).Pairwise fun p q => before q p = false :=
  h.pairwise_of_settled (settled_arrange h.oneWay xs)

end TableQuery
