/-
TableQuery/Text/Occurrence.lean

One text inside another.  `occursIn` decides whether a text is a contiguous
part of another; `occursIn_iff` states that this is the infix relation on
lists of characters.
-/

namespace TableQuery.Text

/-- Whether `part` stands somewhere in the text, as one piece. -/
def occursIn (part : List Char) : List Char → Bool
  | [] => part.isEmpty
  | c :: cs => part.isPrefixOf (c :: cs) || occursIn part cs

theorem occursIn_iff {part text : List Char} : occursIn part text = true ↔ part <:+: text := by
  induction text with
  | nil => simp [occursIn]
  | cons c cs ih =>
    rw [occursIn, Bool.or_eq_true, ih, List.isPrefixOf_iff_prefix, List.infix_cons_iff]

/-- Whether one string occurs in another. -/
def contains (text part : String) : Bool :=
  occursIn part.toList text.toList

end TableQuery.Text
