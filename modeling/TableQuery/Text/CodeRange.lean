/-
TableQuery/Text/CodeRange.lean

Sets of characters as ascending closed ranges of code points.
-/

namespace TableQuery.Text

/-- Whether a code point lies in one of the ranges, which are ascending. -/
def inRanges : List (Nat × Nat) → Nat → Bool
  | [], _ => false
  | (first, last) :: rest, n =>
    if n < first then false else if n ≤ last then true else inRanges rest n

end TableQuery.Text
