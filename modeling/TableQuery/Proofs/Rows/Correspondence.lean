/-
TableQuery/Proofs/Rows/Correspondence.lean

Arranging two lists that correspond element by element.

An arrangement is made of comparisons and moves nothing but whole elements.
So two lists whose elements correspond, under comparisons that agree on
corresponding elements, are arranged in the same way: corresponding elements
end at the same places (`arrange_corresponds`).  Nothing is asked of either
comparison, not even that it is one-way.
-/
import Mathlib.Data.List.Forall2
import TableQuery.Proofs.Rows.Arrangement

namespace TableQuery

variable {α β : Type} {related : α → β → Prop} {before : α → α → Bool} {before' : β → β → Bool}

/-- Two comparisons agree on related elements. -/
def AgreeOn (related : α → β → Prop) (before : α → α → Bool) (before' : β → β → Bool) : Prop :=
  ∀ ⦃x x'⦄, related x x' → ∀ ⦃y y'⦄, related y y' → before x y = before' x' y'

/-- Corresponding lists are both empty or neither is. -/
theorem isEmpty_corresponds {xs : List α} {xs' : List β} (h : List.Forall₂ related xs xs') :
    xs.isEmpty = xs'.isEmpty := by
  cases h with
  | nil => rfl
  | cons _ _ => rfl

theorem AgreeOn.not (h : AgreeOn related before before') :
    AgreeOn related (fun x y => !before x y) (fun x y => !before' x y) := by
  intro x x' hx y y' hy
  exact congrArg Bool.not (h hx hy)

theorem AgreeOn.swap (h : AgreeOn related before before') :
    AgreeOn related (fun x y => before y x) (fun x y => before' y x) := by
  intro x x' hx y y' hy
  exact h hy hx

/-! ### The leading run -/

theorem spanAdjacent_corresponds (h : AgreeOn related before before') {x : α} {x' : β}
    (hx : related x x') {xs : List α} {xs' : List β} (hxs : List.Forall₂ related xs xs') :
    List.Forall₂ related (spanAdjacent before x xs).1 (spanAdjacent before' x' xs').1 ∧
      List.Forall₂ related (spanAdjacent before x xs).2 (spanAdjacent before' x' xs').2 := by
  induction hxs generalizing x x' with
  | nil => exact ⟨.nil, .nil⟩
  | cons hy hys ih =>
    rw [spanAdjacent, spanAdjacent, h hx hy]
    split
    · exact ⟨.cons hy (ih hy).1, (ih hy).2⟩
    · exact ⟨.nil, .cons hy hys⟩

theorem leadingRun_corresponds (h : AgreeOn related before before') {xs : List α} {xs' : List β}
    (hxs : List.Forall₂ related xs xs') :
    List.Forall₂ related (leadingRun before xs).1 (leadingRun before' xs').1 ∧
      List.Forall₂ related (leadingRun before xs).2 (leadingRun before' xs').2 := by
  rcases hxs with - | ⟨hx, - | ⟨hy, hrest⟩⟩
  · exact ⟨.nil, .nil⟩
  · exact ⟨.cons hx .nil, .nil⟩
  · -- the first two elements say which way the run goes
    rw [leadingRun, leadingRun, h hy hx]
    split
    · have hspan := spanAdjacent_corresponds h.swap hx (.cons hy hrest)
      exact ⟨List.rel_reverse (.cons hx hspan.1), hspan.2⟩
    · have hspan := spanAdjacent_corresponds h.swap.not hx (.cons hy hrest)
      exact ⟨.cons hx hspan.1, hspan.2⟩

/-! ### Insertion -/

theorem getElem?_corresponds {xs : List α} {xs' : List β} (h : List.Forall₂ related xs xs')
    (i : Nat) : Option.Rel related xs[i]? xs'[i]? := by
  induction h generalizing i with
  | nil => exact .none
  | cons hx _ ih =>
    cases i with
    | zero => exact .some hx
    | succ i => exact ih i

theorem placeBetween_of_lt (before : α → α → Bool) (x : α) (sorted : Array α) {low high : Nat}
    (h : low < high) :
    placeBetween before x sorted low high
      = match sorted[(low + high) / 2]? with
        | none => low
        | some y =>
          if before x y then placeBetween before x sorted low ((low + high) / 2)
          else placeBetween before x sorted ((low + high) / 2 + 1) high := by
  rw [placeBetween]
  exact dif_pos h

/-- Binary search takes the same way through corresponding arrays. -/
theorem placeBetween_corresponds (h : AgreeOn related before before') {x : α} {x' : β}
    (hx : related x x') {sorted : Array α} {sorted' : Array β}
    (hsorted : List.Forall₂ related sorted.toList sorted'.toList) (low high : Nat) :
    placeBetween before x sorted low high = placeBetween before' x' sorted' low high := by
  induction hwidth : high - low using Nat.strongRecOn generalizing low high with
  | ind width ih =>
    rcases Nat.lt_or_ge low high with hlt | hge
    · rw [placeBetween_of_lt before x sorted hlt, placeBetween_of_lt before' x' sorted' hlt]
      -- corresponding elements stand in the middle, so both go on in the same half
      have hmiddle := getElem?_corresponds hsorted ((low + high) / 2)
      rw [Array.getElem?_toList, Array.getElem?_toList] at hmiddle
      generalize sorted[(low + high) / 2]? = y? at hmiddle ⊢
      generalize sorted'[(low + high) / 2]? = y'? at hmiddle ⊢
      cases hmiddle with
      | none => rfl
      | some hy =>
        have hlow := ih ((low + high) / 2 - low) (by omega) low ((low + high) / 2) rfl
        have hhigh := ih (high - ((low + high) / 2 + 1)) (by omega) ((low + high) / 2 + 1) high rfl
        dsimp only
        rw [h hx hy, hlow, hhigh]
    · rw [placeBetween, dif_neg (Nat.not_lt.2 hge), placeBetween, dif_neg (Nat.not_lt.2 hge)]

theorem insertSorted_corresponds (h : AgreeOn related before before') {x : α} {x' : β}
    (hx : related x x') {sorted : Array α} {sorted' : Array β}
    (hsorted : List.Forall₂ related sorted.toList sorted'.toList) :
    List.Forall₂ related (insertSorted before sorted x).toList
      (insertSorted before' sorted' x').toList := by
  have hsize : sorted.size = sorted'.size := hsorted.length_eq
  rw [toList_insertSorted, toList_insertSorted, placeBetween_corresponds h hx hsorted, hsize]
  exact List.rel_append (List.forall₂_take _ hsorted) (.cons hx (List.forall₂_drop _ hsorted))

/-! ### Arranging -/

theorem foldl_insertSorted_corresponds (h : AgreeOn related before before') {rest : List α}
    {rest' : List β} (hrest : List.Forall₂ related rest rest') {sorted : Array α}
    {sorted' : Array β} (hsorted : List.Forall₂ related sorted.toList sorted'.toList) :
    List.Forall₂ related (rest.foldl (insertSorted before) sorted).toList
      (rest'.foldl (insertSorted before') sorted').toList := by
  induction hrest generalizing sorted sorted' with
  | nil => exact hsorted
  | cons hx _ ih => exact ih (insertSorted_corresponds h hx hsorted)

/-- **Corresponding lists are arranged in the same way.** -/
theorem arrange_corresponds (h : AgreeOn related before before') {xs : List α} {xs' : List β}
    (hxs : List.Forall₂ related xs xs') :
    List.Forall₂ related (arrange before xs) (arrange before' xs') := by
  obtain ⟨hrun, hrest⟩ := leadingRun_corresponds h hxs
  exact foldl_insertSorted_corresponds h hrest hrun

end TableQuery
