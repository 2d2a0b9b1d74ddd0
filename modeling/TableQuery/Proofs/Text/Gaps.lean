/-
TableQuery/Proofs/Text/Gaps.lean

White space around a text.

Stripping takes away a gap at each end and nothing else (`exists_gaps`).  White
space is the same in lower case and keeps apart what stands on its two sides, so
a text is lower-cased inside its gaps; and what neither starts nor ends with
white space does not reach into a gap, so it occurs in a text exactly if it
occurs between the gaps around it.
-/
import Mathlib.Data.List.Infix
import TableQuery.Proofs.Text.Blank
import TableQuery.Proofs.Text.Lowercase

namespace TableQuery.Text

/-- White space only, or nothing. -/
def Gap (cs : List Char) : Prop := ∀ c ∈ cs, isBlank c = true

variable {b : Char} {cs gap part : List Char}

theorem gap_cons : Gap (b :: gap) ↔ isBlank b = true ∧ Gap gap :=
  List.forall_mem_cons

/-! ### Around a text -/

/-- Stripping takes away white space at both ends. -/
theorem exists_gaps (cs : List Char) :
    ∃ front back, Gap front ∧ Gap back ∧ cs = front ++ strip cs ++ back := by
  have hdropped : ∀ xs : List Char, Gap (xs.takeWhile isBlank) :=
    fun xs c hc => List.mem_takeWhile_imp hc
  let inner := cs.dropWhile isBlank
  refine ⟨cs.takeWhile isBlank, (inner.reverse.takeWhile isBlank).reverse, hdropped cs, ?_, ?_⟩
  · exact fun c hc => hdropped inner.reverse c (List.mem_reverse.1 hc)
  · have hinner : strip cs ++ (inner.reverse.takeWhile isBlank).reverse = inner := by
      rw [strip, ← List.reverse_append, List.takeWhile_append_dropWhile, List.reverse_reverse]
    rw [List.append_assoc, hinner, List.takeWhile_append_dropWhile]

/-- What is stripped does not start with white space. -/
theorem isBlank_of_mem_head?_strip : ∀ c ∈ (strip cs).head?, isBlank c = false := by
  intro c hc
  have hprefix : strip cs <+: cs.dropWhile isBlank := by
    rw [strip, ← List.reverse_suffix, List.reverse_reverse]
    exact List.dropWhile_suffix isBlank
  obtain ⟨rest, hrest⟩ := hprefix
  have hhead := List.head?_dropWhile_not isBlank cs
  rw [← hrest, List.head?_append, Option.mem_def.1 hc, Option.some_or] at hhead
  exact hhead

/-! ### Lower case -/

theorem lower_gap_append (h : Gap gap) (cs : List Char) :
    lower (gap ++ cs) = gap ++ lower cs := by
  induction gap with
  | nil => rfl
  | cons b gap ih =>
    obtain ⟨hb, hgap⟩ := gap_cons.1 h
    have hsplit : lower (b :: (gap ++ cs)) = b :: lower (gap ++ cs) :=
      lower_append_blank hb [] _
    rw [List.cons_append, hsplit, ih hgap, List.cons_append]

theorem lower_append_gap (h : Gap gap) (cs : List Char) :
    lower (cs ++ gap) = lower cs ++ gap := by
  rcases gap with - | ⟨b, gap⟩
  · rw [List.append_nil, List.append_nil]
  · obtain ⟨hb, hgap⟩ := gap_cons.1 h
    rw [lower_append_blank hb, lower_of_blank hgap]

/-! ### Occurrences -/

/-- What does not start with white space never starts in a gap in front. -/
theorem infix_gap_append_iff (hpart : ∀ c ∈ part.head?, isBlank c = false)
    (h : Gap gap) (cs : List Char) : part <:+: gap ++ cs ↔ part <:+: cs := by
  induction gap with
  | nil => exact Iff.rfl
  | cons b gap ih =>
    obtain ⟨hb, hgap⟩ := gap_cons.1 h
    rw [List.cons_append, List.infix_cons_iff, ih hgap]
    refine or_iff_right_of_imp fun hprefix => ?_
    -- a part that starts here would start with white space
    rcases part with - | ⟨c, part⟩
    · exact List.nil_infix
    · obtain rfl := (List.cons_prefix_cons.1 hprefix).1
      have hc := hpart c rfl
      rw [hb] at hc
      cases hc

/-- What does not end in white space never ends in a gap behind. -/
theorem infix_append_gap_iff (hpart : ∀ c ∈ part.getLast?, isBlank c = false)
    (h : Gap gap) (cs : List Char) : part <:+: cs ++ gap ↔ part <:+: cs := by
  have hreversed : ∀ c ∈ part.reverse.head?, isBlank c = false := by
    rwa [List.head?_reverse]
  have hgap : Gap gap.reverse := fun c hc => h c (List.mem_reverse.1 hc)
  rw [← List.reverse_infix, List.reverse_append, infix_gap_append_iff hreversed hgap,
    List.reverse_infix]

end TableQuery.Text
