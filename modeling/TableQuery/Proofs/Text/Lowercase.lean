/-
TableQuery/Proofs/Text/Lowercase.lean

Lower-casing of divided texts.

The lower case of a letter may depend on its neighbours, as that of a capital
sigma does, but white space ends every word.  So a text that is divided by
white space is lower-cased part by part (`lower_append_blank`,
`lowercase_append_blank`), and a part without a capital sigma has the same
lower case wherever it stands (`lower_infix_of_not_mem`).  White space stays
as it is and nothing else becomes white space.  Nothing disappears in lower
case, so only the empty text has an empty lower case.
-/
import Mathlib.Data.List.Infix
import TableQuery.Text.Blank
import TableQuery.Text.Lowercase

namespace TableQuery.Text

/-! ### Tables -/

/-- The code points of some ranges. -/
def codePoints (ranges : List (Nat × Nat)) : List Nat :=
  ranges.flatMap fun r => List.range' r.1 (r.2 + 1 - r.1)

theorem mem_codePoints_of_inRanges {ranges : List (Nat × Nat)} {n : Nat}
    (h : inRanges ranges n = true) : n ∈ codePoints ranges := by
  induction ranges with
  | nil => cases h
  | cons r rest ih =>
    rw [codePoints, List.flatMap_cons, List.mem_append]
    rw [inRanges] at h
    split at h
    · cases h
    · split at h
      · left
        rw [List.mem_range'_1]
        omega
      · exact .inr (ih h)

/-- A code point stays, or the run that reaches it moves it. -/
theorem lowerCodePoint_cases (runs : List CaseRun) (n : Nat) :
    lowerCodePoint runs n = n ∨
      ∃ run ∈ runs, run.first ≤ n ∧ n ≤ run.last ∧
        lowerCodePoint runs n = (n + run.shift).toNat := by
  induction runs with
  | nil => exact .inl rfl
  | cons run rest ih =>
    rw [lowerCodePoint]
    split
    · exact .inl rfl
    · split
      · split
        · exact .inr ⟨run, List.mem_cons_self, by omega, by omega, rfl⟩
        · exact .inl rfl
      · obtain h | ⟨r, hr, h⟩ := ih
        · exact .inl h
        · exact .inr ⟨r, List.mem_cons_of_mem _ hr, h⟩

/-! ### White space -/

/-- No white space is looked through, has case or has a lower case of its own. -/
theorem caseless_blanks : ∀ n ∈ codePoints blankRanges,
    inRanges caseIgnorableRanges n = false ∧ inRanges casedRanges n = false ∧
      lowerCodePoint caseRuns n = n := by
  decide +kernel

/-- No run moves anything onto white space. -/
theorem no_run_reaches_blanks : ∀ run ∈ caseRuns, ∀ n ∈ codePoints blankRanges,
    (n : Int) - run.shift < run.first ∨ (run.last : Int) < n - run.shift := by
  decide +kernel

section Blank

variable {b : Char}

theorem not_isCaseIgnorable_of_isBlank (h : isBlank b = true) : isCaseIgnorable b = false :=
  (caseless_blanks _ (mem_codePoints_of_inRanges h)).1

theorem not_isCased_of_isBlank (h : isBlank b = true) : isCased b = false :=
  (caseless_blanks _ (mem_codePoints_of_inRanges h)).2.1

/-- White space stays as it is. -/
theorem lowerChar_of_isBlank (h : isBlank b = true) (endsWord : Bool) :
    lowerChar endsWord b = [b] := by
  have hsigma : b ≠ 'Σ' := by
    rintro rfl
    revert h
    decide
  have hdotted : b ≠ 'İ' := by
    rintro rfl
    revert h
    decide
  have hpoint : lowerCodePoint caseRuns b.toNat = b.toNat :=
    (caseless_blanks _ (mem_codePoints_of_inRanges h)).2.2
  rw [lowerChar, if_neg hsigma, if_neg hdotted, hpoint, Char.ofNat_toNat]

/-- A number that is no code point stands for the null character. -/
theorem toNat_ofNat_cases (n : Nat) : (Char.ofNat n).toNat = n ∨ (Char.ofNat n).toNat = 0 := by
  by_cases h : n.isValidChar
  · rw [Char.ofNat, dif_pos h]
    exact .inl rfl
  · rw [Char.ofNat, dif_neg h]
    exact .inr rfl

/-- Nothing else becomes white space. -/
theorem isBlank_of_mem_lowerChar {c d : Char} {endsWord : Bool} (hc : isBlank c = false)
    (hd : d ∈ lowerChar endsWord c) : isBlank d = false := by
  rw [lowerChar] at hd
  -- a capital sigma and a dotted capital I have lower cases of their own
  split at hd
  · rw [List.mem_singleton.1 hd]
    cases endsWord <;> decide
  · split at hd
    · rcases List.mem_pair.1 hd with rfl | rfl
      · decide
      · decide
    · rw [List.mem_singleton.1 hd, ← Bool.not_eq_true, isBlank]
      intro hblank
      rcases toNat_ofNat_cases (lowerCodePoint caseRuns c.toNat) with hpoint | hnull
      · rw [hpoint] at hblank
        -- any other code point stays or moves with its run, and no run ends at white space
        rcases lowerCodePoint_cases caseRuns c.toNat with hstays | ⟨run, hrun, hfirst, hlast, hmoved⟩
        · rw [hstays] at hblank
          exact Bool.false_ne_true (hc.symm.trans hblank)
        · have hnone := no_run_reaches_blanks run hrun _ (mem_codePoints_of_inRanges hblank)
          have hpos : lowerCodePoint caseRuns c.toNat ≠ 0 := by
            intro hzero
            rw [hzero] at hblank
            revert hblank
            decide
          omega
      · rw [hnull] at hblank
        revert hblank
        decide

/-! ### Divided texts -/

/-- Behind white space stands nothing that would make a letter one inside a
word. -/
theorem startsCased_append_blank (h : isBlank b = true) (xs ys : List Char) :
    startsCased (xs ++ b :: ys) = startsCased xs := by
  induction xs with
  | nil =>
    show startsCased (b :: ys) = false
    rw [startsCased, not_isCaseIgnorable_of_isBlank h, not_isCased_of_isBlank h,
      if_neg Bool.false_ne_true]
  | cons c xs ih => rw [List.cons_append, startsCased, startsCased, ih]

theorem lowerFrom_append_blank (h : isBlank b = true) (afterCased : Bool) (xs ys : List Char) :
    lowerFrom afterCased (xs ++ b :: ys) = lowerFrom afterCased xs ++ b :: lower ys := by
  induction xs generalizing afterCased with
  | nil =>
    show lowerFrom afterCased (b :: ys) = b :: lower ys
    rw [lowerFrom, lowerChar_of_isBlank h, not_isCaseIgnorable_of_isBlank h,
      not_isCased_of_isBlank h, if_neg Bool.false_ne_true]
    rfl
  | cons c xs ih =>
    rw [List.cons_append, lowerFrom, lowerFrom, startsCased_append_blank h, ih, List.append_assoc]

/-- White space as a whole stays as it is. -/
theorem lower_of_blank {cs : List Char} (h : ∀ c ∈ cs, isBlank c = true) : lower cs = cs := by
  induction cs with
  | nil => rfl
  | cons c cs ih =>
    obtain ⟨hc, hcs⟩ := List.forall_mem_cons.1 h
    have hsplit : lower (c :: cs) = c :: lower cs := lowerFrom_append_blank hc false [] cs
    rw [hsplit, ih hcs]

/-- **A text that is divided by white space is lower-cased part by part.** -/
theorem lower_append_blank (h : isBlank b = true) (xs ys : List Char) :
    lower (xs ++ b :: ys) = lower xs ++ b :: lower ys :=
  lowerFrom_append_blank h false xs ys

/-- The same for strings and a single blank. -/
theorem lowercase_append_blank (s t : String) :
    lowercase (s ++ " " ++ t) = lowercase s ++ " " ++ lowercase t := by
  rw [← String.toList_inj]
  simp only [lowercase, String.toList_append, String.toList_ofList, List.append_assoc]
  exact lower_append_blank (by decide) s.toList t.toList

/-- A beginning in lower case stays as it is. -/
theorem lowercase_append_of_lower {s : String} (h : lowercase s = s) (t : String) :
    lowercase (s ++ " " ++ t) = s ++ " " ++ lowercase t := by
  rw [lowercase_append_blank, h]

end Blank

/-! ### A part of a text -/

/-- What stands in front of a part decides only with which bit the lower case
of the part begins. -/
theorem exists_lowerFrom_append (before part : List Char) (afterCased : Bool) :
    ∃ front bit, lowerFrom afterCased (before ++ part) = front ++ lowerFrom bit part := by
  induction before generalizing afterCased with
  | nil => exact ⟨[], afterCased, rfl⟩
  | cons c before ih =>
    obtain ⟨front, bit, h⟩ := ih (if isCaseIgnorable c then afterCased else isCased c)
    refine ⟨lowerChar (afterCased && !startsCased (before ++ part)) c ++ front, bit, ?_⟩
    rw [List.cons_append, lowerFrom, h, List.append_assoc]

/-- Only a capital sigma looks at its neighbours. -/
theorem lowerChar_of_ne {c : Char} (h : c ≠ 'Σ') (endsWord endsWord' : Bool) :
    lowerChar endsWord c = lowerChar endsWord' c := by
  rw [lowerChar, lowerChar, if_neg h, if_neg h]

/-- The lower case of a part without a capital sigma starts the lower case of
the part with anything behind it. -/
theorem lowerFrom_prefix_of_not_mem {part : List Char} (h : 'Σ' ∉ part) (after : List Char)
    (bit bit' : Bool) : lowerFrom bit part <+: lowerFrom bit' (part ++ after) := by
  induction part generalizing bit bit' with
  | nil => exact List.nil_prefix
  | cons c part ih =>
    rw [List.mem_cons, not_or] at h
    rw [List.cons_append, lowerFrom, lowerFrom, lowerChar_of_ne (Ne.symm h.1) _ true,
      lowerChar_of_ne (Ne.symm h.1) (bit' && _) true, List.prefix_append_right_inj]
    exact ih h.2 _ _

/-- **A part without a capital sigma has the same lower case wherever it
stands.** -/
theorem lower_infix_of_not_mem {part : List Char} (h : 'Σ' ∉ part) (before after : List Char) :
    lower part <:+: lower (before ++ part ++ after) := by
  obtain ⟨front, bit, hfront⟩ := exists_lowerFrom_append before (part ++ after) false
  rw [List.append_assoc, lower, lower, hfront]
  exact (lowerFrom_prefix_of_not_mem h after false bit).isInfix.trans
    (List.suffix_append front _).isInfix

/-- **A part with white space or nothing on both of its sides has the same
lower case as it has alone.** -/
theorem lower_infix_of_apart {before after : List Char}
    (hbefore : ∀ b ∈ before.getLast?, isBlank b = true)
    (hafter : ∀ b ∈ after.head?, isBlank b = true) (part : List Char) :
    lower part <:+: lower (before ++ part ++ after) := by
  have hfront : lower part <:+: lower (before ++ part) := by
    rcases List.eq_nil_or_concat before with rfl | ⟨start, b, rfl⟩
    · exact List.infix_refl _
    · have hb : isBlank b = true := hbefore b (by simp)
      rw [List.concat_eq_append, List.append_assoc, List.singleton_append, lower_append_blank hb]
      exact (List.suffix_cons b _).isInfix.trans (List.suffix_append _ _).isInfix
  refine hfront.trans ?_
  rcases after with - | ⟨b, rest⟩
  · rw [List.append_nil]
  · rw [lower_append_blank (hafter b rfl)]
    exact (List.prefix_append _ _).isInfix

/-! ### What the lower case of a text holds -/

/-- A text without white space has a lower case without white space. -/
theorem isBlank_of_mem_lowerFrom {cs : List Char} (h : ∀ c ∈ cs, isBlank c = false)
    (afterCased : Bool) : ∀ d ∈ lowerFrom afterCased cs, isBlank d = false := by
  induction cs generalizing afterCased with
  | nil => exact fun _ hd => absurd hd List.not_mem_nil
  | cons c cs ih =>
    obtain ⟨hc, hcs⟩ := List.forall_mem_cons.1 h
    intro d hd
    rw [lowerFrom, List.mem_append] at hd
    rcases hd with hd | hd
    · exact isBlank_of_mem_lowerChar hc hd
    · exact ih hcs _ d hd

theorem lowerChar_ne_nil (endsWord : Bool) (c : Char) : lowerChar endsWord c ≠ [] := by
  rw [lowerChar]
  split
  · exact List.cons_ne_nil _ _
  · split
    · exact List.cons_ne_nil _ _
    · exact List.cons_ne_nil _ _

/-- Nothing disappears in lower case. -/
theorem lower_eq_nil_iff {cs : List Char} : lower cs = [] ↔ cs = [] := by
  constructor
  · intro h
    rcases cs with - | ⟨c, cs⟩
    · rfl
    · rw [lower, lowerFrom, List.append_eq_nil_iff] at h
      exact absurd h.1 (lowerChar_ne_nil _ c)
  · rintro rfl
    rfl

theorem lowercase_ne_empty {s : String} (h : s ≠ "") : lowercase s ≠ "" := by
  intro hempty
  rw [← String.toList_inj, lowercase, String.toList_ofList] at hempty
  exact h (String.toList_inj.1 (lower_eq_nil_iff.1 hempty))

end TableQuery.Text
