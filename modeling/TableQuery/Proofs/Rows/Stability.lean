/-
TableQuery/Proofs/Rows/Stability.lean

Stable arrangements, and where arranging makes one.

A stable arrangement of a list holds the same elements in order, and elements
that are level, so that neither comes before the other, as they stood
(`StablyArranged`).  There is at most one (`StablyArranged.unique`), whatever
finds it, and to leave out elements of a list is to leave them out of its
arrangement (`StablyArranged.filter`).

Arranging makes one where the comparison is consistent on the elements of the
list (`stablyArranged_arrange`).  Transitivity is consumed at each of the three
steps: a strictly descending run holds no two level elements, so nothing is
swapped that should not be when it is reversed; of what stands behind the
place of an inserted element nothing is level with it; and neighbours in order
are enough for all pairs.

Main results: `stablyArranged_arrange`, `arrange_filter`.
-/
import TableQuery.Proofs.Rows.Correspondence

namespace TableQuery

variable {α β : Type} {before : α → α → Bool} {x y z : α} {xs ys zs : List α}

/-! ### Consistent comparisons -/

/-- A comparison is consistent on the elements of a list. -/
def ConsistentOn (before : α → α → Bool) (xs : List α) : Prop :=
  Consistent fun p q : {x // x ∈ xs} => before p q

theorem ConsistentOn.sublist (h : ConsistentOn before xs) (hsub : ∀ x ∈ ys, x ∈ xs) :
    ConsistentOn before ys where
  oneWay p q := h.oneWay ⟨p, hsub p p.2⟩ ⟨q, hsub q q.2⟩
  trans p q r := @h.trans ⟨p, hsub p p.2⟩ ⟨q, hsub q q.2⟩ ⟨r, hsub r r.2⟩

/-- Neither of two elements comes before the other. -/
def level (before : α → α → Bool) (x y : α) : Bool := !before x y && !before y x

theorem level_iff : level before x y = true ↔ before x y = false ∧ before y x = false := by
  rw [level, Bool.and_eq_true, Bool.not_eq_true', Bool.not_eq_true']

theorem OneWay.irrefl (h : OneWay before) (x : α) : before x x = false := by
  rcases hx : before x x with - | -
  · rfl
  · rw [h x x hx] at hx
    cases hx

theorem OneWay.level_self (h : OneWay before) (x : α) : level before x x = true :=
  level_iff.2 ⟨h.irrefl x, h.irrefl x⟩

namespace Consistent

/-- What comes before an element comes before all that do not come before that
element. -/
theorem before_of_before_of_not (h : Consistent before) (hxy : before x y = true)
    (hyz : before z y = false) : before x z = true := by
  by_contra hxz
  rw [h.trans hyz (eq_false_of_ne_true hxz)] at hxy
  cases hxy

theorem before_trans (h : Consistent before) (hxy : before x y = true) (hyz : before y z = true) :
    before x z = true :=
  h.before_of_before_of_not hxy (h.oneWay y z hyz)

/-- Two elements that are level with a third do not come before each other. -/
theorem not_before_of_level (h : Consistent before) (hx : level before z x = true)
    (hy : level before z y = true) : before x y = false :=
  h.trans (level_iff.1 hy).1 (level_iff.1 hx).2

end Consistent

/-! ### Stable arrangements -/

/-- A list is a stable arrangement of another. -/
structure StablyArranged (before : α → α → Bool) (xs ys : List α) : Prop where
  perm : ys.Perm xs
  sorted : ys.Pairwise fun p q => before q p = false
  /-- Level elements stand as they stood. -/
  stable : ∀ x ∈ xs, ys.filter (level before x) = xs.filter (level before x)

/-- In a list that is in order nothing comes before the first element. -/
theorem not_before_head (hb : OneWay before)
    (h : (y :: ys).Pairwise fun p q => before q p = false) (hx : x ∈ y :: ys) :
    before x y = false := by
  rcases List.mem_cons.1 hx with rfl | hx
  · exact hb.irrefl x
  · exact List.rel_of_pairwise_cons h hx

/-- Two lists in order that hold the same elements, level ones in the same
sequence, are equal. -/
theorem eq_of_pairwise_of_filter_eq (hb : OneWay before) (hperm : ys.Perm zs)
    (hys : ys.Pairwise fun p q => before q p = false)
    (hzs : zs.Pairwise fun p q => before q p = false)
    (hstable : ∀ x ∈ ys, ys.filter (level before x) = zs.filter (level before x)) : ys = zs := by
  induction ys generalizing zs with
  | nil => exact (List.nil_perm.1 hperm).symm
  | cons y ys ih =>
    rcases zs with - | ⟨z, zs⟩
    · exact absurd hperm.eq_nil (List.cons_ne_nil y ys)
    · -- the first elements are level, and so each is the first of its kind
      have hlevel : level before y z = true :=
        level_iff.2 ⟨not_before_head hb hzs (hperm.mem_iff.1 List.mem_cons_self),
          not_before_head hb hys (hperm.mem_iff.2 List.mem_cons_self)⟩
      have hfirst := hstable y List.mem_cons_self
      rw [List.filter_cons_of_pos (hb.level_self y), List.filter_cons_of_pos hlevel] at hfirst
      obtain rfl : y = z := (List.cons.inj hfirst).1
      refine congrArg (y :: ·) (ih hperm.cons_inv hys.of_cons hzs.of_cons fun x hx => ?_)
      have hrest := hstable x (List.mem_cons_of_mem y hx)
      rw [List.filter_cons, List.filter_cons] at hrest
      split at hrest
      · exact (List.cons.inj hrest).2
      · exact hrest

namespace StablyArranged

/-- **A list has at most one stable arrangement.** -/
theorem unique (hb : OneWay before) (hys : StablyArranged before xs ys)
    (hzs : StablyArranged before xs zs) : ys = zs := by
  refine eq_of_pairwise_of_filter_eq hb (hys.perm.trans hzs.perm.symm) hys.sorted hzs.sorted ?_
  intro x hx
  have hmem := hys.perm.mem_iff.1 hx
  rw [hys.stable x hmem, hzs.stable x hmem]

/-- Of two level elements the one that stood in front stands in front. -/
theorem pair_sublist_iff (hb : OneWay before) (h : StablyArranged before xs ys)
    (hxy : level before x y = true) : [x, y].Sublist ys ↔ [x, y].Sublist xs := by
  -- both elements are kept by the filter for what is level with the first
  have hkept : [x, y].filter (level before x) = [x, y] := by
    rw [List.filter_cons_of_pos (hb.level_self x), List.filter_cons_of_pos hxy, List.filter_nil]
  constructor
  · intro hys
    have hx : x ∈ xs := h.perm.mem_iff.1 (hys.subset List.mem_cons_self)
    have hfilter := hys.filter (level before x)
    rw [hkept, h.stable x hx] at hfilter
    exact hfilter.trans List.filter_sublist
  · intro hxs
    have hfilter := hxs.filter (level before x)
    rw [hkept, ← h.stable x (hxs.subset List.mem_cons_self)] at hfilter
    exact hfilter.trans List.filter_sublist

/-- **Leaving out elements keeps a stable arrangement.** -/
theorem filter (h : StablyArranged before xs ys) (test : α → Bool) :
    StablyArranged before (xs.filter test) (ys.filter test) where
  perm := h.perm.filter test
  sorted := h.sorted.filter test
  stable x hx := by
    rw [List.filter_comm, h.stable x (List.mem_filter.1 hx).1, List.filter_comm]

/-- Elements that are compared by something that belongs to them are arranged
as that is. -/
theorem map {before : β → β → Bool} {f : α → β}
    (h : StablyArranged (fun p q => before (f p) (f q)) xs ys) :
    StablyArranged before (xs.map f) (ys.map f) where
  perm := h.perm.map f
  sorted := List.pairwise_map.2 h.sorted
  stable := by
    intro _ hmem
    obtain ⟨x, hx, rfl⟩ := List.mem_map.1 hmem
    rw [List.filter_map, List.filter_map]
    exact congrArg (List.map f) (h.stable x hx)

end StablyArranged

/-! ### The leading run -/

/-- A descending run holds at most one of several level elements, so reversing
it does not move any past another. -/
theorem reverse_filter_level (h : Consistent before)
    (hxs : xs.Pairwise fun p q => before q p = true) (z : α) :
    (xs.filter (level before z)).reverse = xs.filter (level before z) := by
  have hpair := hxs.filter (level before z)
  have hlevel : ∀ x ∈ xs.filter (level before z), level before z x = true :=
    fun x hx => (List.mem_filter.1 hx).2
  generalize xs.filter (level before z) = run at hpair hlevel
  rcases run with - | ⟨x, - | ⟨y, rest⟩⟩
  · rfl
  · rfl
  · have hyx := List.rel_of_pairwise_cons hpair List.mem_cons_self
    rw [h.not_before_of_level (hlevel y (List.mem_cons_of_mem x List.mem_cons_self))
      (hlevel x List.mem_cons_self)] at hyx
    cases hyx

/-- Taking the leading run leaves level elements as they stood. -/
theorem filter_leadingRun (h : Consistent before) (xs : List α) (z : α) :
    ((leadingRun before xs).1 ++ (leadingRun before xs).2).filter (level before z)
      = xs.filter (level before z) := by
  rcases xs with - | ⟨x, - | ⟨y, rest⟩⟩
  · rfl
  · rfl
  · rw [leadingRun]
    split
    · -- the run descends, and comes out reversed
      have : IsTrans α fun p q => before q p = true := ⟨fun _ _ _ hqp hrq => h.before_trans hrq hqp⟩
      have hrun := List.isChain_iff_pairwise.1
        (isChain_spanAdjacent (fun p q => before q p) x (y :: rest))
      rw [List.filter_append, List.filter_reverse, reverse_filter_level h hrun,
        ← List.filter_append, List.cons_append, spanAdjacent_append]
    · rw [List.cons_append, spanAdjacent_append]

/-! ### Insertion -/

/-- An element is inserted behind all elements that it is level with. -/
theorem filter_insertSorted (h : Consistent before) {sorted : Array α}
    (hsorted : Settled before sorted.toList) (x z : α) :
    (insertSorted before sorted x).toList.filter (level before z)
      = (sorted.toList ++ [x]).filter (level before z) := by
  obtain ⟨k, hk, -, hbefore⟩ := insertSorted_eq before sorted x
  rw [hk, List.filter_append, List.filter_append]
  by_cases hx : level before z x = true
  · -- nothing behind the place is level with `x`
    have hbehind : (sorted.toList.drop k).filter (level before z) = [] := by
      refine List.filter_eq_nil_iff.2 fun y hy hlevel => ?_
      have hpair := h.pairwise_of_settled (hsorted.drop k)
      rw [FitsBefore] at hbefore
      generalize sorted.toList.drop k = behind at hbefore hpair hy
      rcases behind with - | ⟨first, rest⟩
      · cases hy
      · have hxy : before x y = true :=
          h.before_of_before_of_not (hbefore first rfl) (not_before_head h.oneWay hpair hy)
        rw [h.not_before_of_level hx hlevel] at hxy
        cases hxy
    have hall := congrArg (List.filter (level before z)) (List.take_append_drop k sorted.toList)
    rw [List.filter_append, hbehind, List.append_nil] at hall
    rw [List.filter_cons_of_pos hx, hbehind, hall, List.filter_cons_of_pos hx, List.filter_nil]
  -- an element of another kind does not show in the filter, wherever it goes
  · rw [List.filter_cons_of_neg hx, List.filter_cons_of_neg hx, List.filter_nil, List.append_nil,
      ← List.filter_append, List.take_append_drop]

theorem filter_foldl_insertSorted (h : Consistent before) (rest : List α) {sorted : Array α}
    (hsorted : Settled before sorted.toList) (z : α) :
    (rest.foldl (insertSorted before) sorted).toList.filter (level before z)
      = (sorted.toList ++ rest).filter (level before z) := by
  induction rest generalizing sorted with
  | nil => rw [List.append_nil, List.foldl_nil]
  | cons x rest ih =>
    rw [List.foldl_cons, ih (settled_insertSorted h.oneWay hsorted x), List.filter_append,
      filter_insertSorted h hsorted x z, ← List.filter_append, List.append_assoc,
      List.singleton_append]

/-! ### Arranging -/

theorem Consistent.stablyArranged_arrange (h : Consistent before) (xs : List α) :
    StablyArranged before xs (arrange before xs) where
  perm := arrange_perm before xs
  sorted := h.pairwise_of_settled (settled_arrange h.oneWay xs)
  stable z _ := by
    rw [arrange, filter_foldl_insertSorted h _ (settled_leadingRun h.oneWay xs),
      List.toList_toArray, filter_leadingRun h]

/-- Elements that are compared by something that belongs to them are arranged
as that is. -/
theorem arrange_map (before : β → β → Bool) (f : α → β) (xs : List α) :
    arrange before (xs.map f) = (arrange (fun p q => before (f p) (f q)) xs).map f := by
  have hagree : AgreeOn (fun p q => f p = q) (fun p q => before (f p) (f q)) before := by
    rintro p _ rfl q _ rfl
    rfl
  have hxs : List.Forall₂ (fun p q => f p = q) xs (xs.map f) :=
    List.forall₂_map_right_iff.2 (List.forall₂_same.2 fun _ _ => rfl)
  have hall := arrange_corresponds hagree hxs
  rw [← List.forall₂_map_left_iff (R := Eq), List.forall₂_eq_eq_eq] at hall
  exact hall.symm

/-- **Where the comparison is consistent on a list, arranging makes its stable
arrangement.** -/
theorem stablyArranged_arrange (h : ConsistentOn before xs) :
    StablyArranged before xs (arrange before xs) := by
  -- the comparison is consistent on the type of the list's elements only, so
  -- the list is arranged there and taken back
  have hattach : arrange before xs
      = (arrange (fun p q : {x // x ∈ xs} => before p q) xs.attach).map Subtype.val := by
    rw [← arrange_map, List.attach_map_subtype_val]
  have hall : StablyArranged before (xs.attach.map Subtype.val)
      ((arrange (fun p q : {x // x ∈ xs} => before p q) xs.attach).map Subtype.val) :=
    (Consistent.stablyArranged_arrange h xs.attach).map
  rwa [List.attach_map_subtype_val, ← hattach] at hall

/-- **Arranging what is left of a list is leaving it of the arrangement.** -/
theorem arrange_filter (hb : OneWay before) (h : ConsistentOn before xs) (test : α → Bool) :
    arrange before (xs.filter test) = (arrange before xs).filter test := by
  have hleft : ConsistentOn before (xs.filter test) :=
    h.sublist fun x hx => (List.mem_filter.1 hx).1
  exact (stablyArranged_arrange hleft).unique hb ((stablyArranged_arrange h).filter test)

end TableQuery
