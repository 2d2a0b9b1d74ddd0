/-
TableQuery/Rows/Arrangement.lean

Sorting a list by a strict comparison.

Design.  The leading run is taken as it stands: the longest initial part in
which nothing comes before its predecessor, or, if the second element comes
before the first, the longest strictly descending part, reversed.  Every
further element is put into the sorted part by binary search, behind the
elements that it does not come before.  For a comparison that orders the
elements consistently this is a stable sort.  For one that does not, the
result still depends on nothing but the comparison, and no two neighbours of
it are out of order.

Scope.  This is how a list of fewer than 64 elements is sorted.  A longer one
is sorted run by run, and the runs are merged; that is not spelled out here.
Where the comparison is consistent it makes no difference, since there is one
stable arrangement only.  Where it is not, the order of a long list is that of
this method and need not be that of the merged runs.
-/

namespace TableQuery

variable {α : Type}

/-- The longest continuation of a list, after `x`, in which each element
stands in the relation to the next, and the rest. -/
def spanAdjacent (related : α → α → Bool) (x : α) : List α → List α × List α
  | [] => ([], [])
  | y :: ys =>
    if related x y then
      (y :: (spanAdjacent related y ys).1, (spanAdjacent related y ys).2)
    else ([], y :: ys)

/-- The leading run of a list, in ascending order, and the rest. -/
def leadingRun (before : α → α → Bool) : List α → List α × List α
  | [] => ([], [])
  | [x] => ([x], [])
  | x :: y :: rest =>
    if before y x then
      let (run, rest) := spanAdjacent (fun p q => before q p) x (y :: rest)
      ((x :: run).reverse, rest)
    else
      let (run, rest) := spanAdjacent (fun p q => !before q p) x (y :: rest)
      (x :: run, rest)

/-- Binary search between two positions for the place of `x`: behind the
elements that it does not come before. -/
def placeBetween (before : α → α → Bool) (x : α) (sorted : Array α) (low high : Nat) : Nat :=
  if _h : low < high then
    let middle := (low + high) / 2
    match sorted[middle]? with
    | none => low
    | some y =>
      if before x y then placeBetween before x sorted low middle
      else placeBetween before x sorted (middle + 1) high
  else low
termination_by high - low
decreasing_by all_goals omega

/-- Puts an element into the sorted part. -/
def insertSorted (before : α → α → Bool) (sorted : Array α) (x : α) : Array α :=
  sorted.insertIdxIfInBounds (placeBetween before x sorted 0 sorted.size) x

/-- Sorts a list by a strict comparison. -/
def arrange (before : α → α → Bool) (xs : List α) : List α :=
  let (run, rest) := leadingRun before xs
  (rest.foldl (insertSorted before) run.toArray).toList

end TableQuery
