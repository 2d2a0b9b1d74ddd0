/-
TableQuery/Proofs/Text/Occurrence.lean

Occurrences behind a fixed beginning.

A part may stand in the text behind a beginning, in the beginning, or across
the border.  `Misses` rules out the last two by looking at the beginning
alone: wherever the part could start in it, the two differ before the
beginning ends.  Then the part occurs in the whole text exactly if it occurs
in the text behind (`infix_append_iff`).
-/
import Mathlib.Data.List.Infix
import TableQuery.Text.Occurrence

namespace TableQuery.Text

variable {part front : List Char}

/-- Wherever a part could start in a beginning, neither is the start of the
other. -/
def Misses (part front : List Char) : Prop :=
  ∀ rest ∈ front.tails, rest ≠ [] → ¬ part <+: rest ∧ ¬ rest <+: part

instance (part front : List Char) : Decidable (Misses part front) :=
  inferInstanceAs (Decidable (∀ rest ∈ front.tails, _))

theorem misses_cons {c : Char} (h : Misses part (c :: front)) :
    (¬ part <+: c :: front ∧ ¬ c :: front <+: part) ∧ Misses part front := by
  rw [Misses, List.tails_cons, List.forall_mem_cons] at h
  obtain ⟨hhead, htails⟩ := h
  exact ⟨hhead (List.cons_ne_nil c front), htails⟩

/-- **A part that misses the beginning occurs behind it or not at all.** -/
theorem infix_append_iff (h : Misses part front) (text : List Char) :
    part <:+: front ++ text ↔ part <:+: text := by
  induction front with
  | nil => exact Iff.rfl
  | cons c front ih =>
    obtain ⟨⟨hpart, hfront⟩, hrest⟩ := misses_cons h
    have hstart : ¬ part <+: (c :: front) ++ text := by
      intro hprefix
      -- two starts of one text: the shorter one starts the longer one
      rcases List.prefix_or_prefix_of_prefix hprefix (List.prefix_append (c :: front) text)
        with hshort | hlong
      · exact hpart hshort
      · exact hfront hlong
    rw [List.cons_append, List.infix_cons_iff, ih hrest]
    exact or_iff_right hstart

/-- What misses a beginning occurs behind it or not at all. -/
theorem contains_append {part front : String} (h : Misses part.toList front.toList)
    (text : String) : contains (front ++ text) part = contains text part := by
  rw [Bool.eq_iff_iff, contains, contains, occursIn_iff, occursIn_iff, String.toList_append]
  exact infix_append_iff h text.toList

end TableQuery.Text
