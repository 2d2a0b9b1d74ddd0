/-
TableQuery/Proofs/Text/Words.lean

The words of a text, and the text that they make with single blanks between
them.

A text is taken apart at its first white space, again and again, until a part
without white space is left (`divide_induction`).  The words are found in the
same way (`words_append_blank`), so every fact about words has two cases.  White
space around a text does not count (`words_strip`).

`spaced` is the text with its words at single blanks.  It is spaced itself
(`spaced_intercalate`), and it holds every spaced part of the text
(`infix_spaced`): white space next to a part may become shorter, but inside a
spaced part there is nothing to shorten.  Lower-casing leaves white space
alone, so the two commute (`lower_spaced`), and neither hides from the other
whether a text is spaced (`spaced_of_spaced_lower`).
-/
import TableQuery.Proofs.Text.Gaps

namespace TableQuery.Text

/-- A text without white space. -/
def Unbroken (cs : List Char) : Prop := ∀ c ∈ cs, isBlank c = false

/-- A word is not empty and has no white space. -/
structure IsWord (w : List Char) : Prop where
  ne_nil : w ≠ []
  unbroken : Unbroken w

/-- The words of a text with single blanks between them. -/
def spaced (cs : List Char) : List Char := [' '].intercalate (words cs)

variable {b : Char} {cs gap w rest : List Char} {ws : List (List Char)}

theorem unbroken_cons {c : Char} : Unbroken (c :: cs) ↔ isBlank c = false ∧ Unbroken cs :=
  List.forall_mem_cons

theorem Unbroken.append {w' : List Char} (h : Unbroken w) (h' : Unbroken w') :
    Unbroken (w ++ w') :=
  List.forall_mem_append.2 ⟨h, h'⟩

/-! ### Taking a text apart -/

/-- A text has no white space, or it can be divided at the first. -/
theorem unbroken_or_divided (cs : List Char) :
    Unbroken cs ∨ ∃ w b rest, cs = w ++ b :: rest ∧ Unbroken w ∧ isBlank b = true := by
  induction cs with
  | nil => exact .inl fun _ h => absurd h List.not_mem_nil
  | cons c cs ih =>
    by_cases hc : isBlank c = true
    · exact .inr ⟨[], c, cs, rfl, fun _ h => absurd h List.not_mem_nil, hc⟩
    · rw [Bool.not_eq_true] at hc
      rcases ih with h | ⟨w, b, rest, rfl, hw, hb⟩
      · exact .inl (unbroken_cons.2 ⟨hc, h⟩)
      · exact .inr ⟨c :: w, b, rest, rfl, unbroken_cons.2 ⟨hc, hw⟩, hb⟩

/-- What holds of every text without white space, and of a text that is
divided if it holds of what is behind, holds of every text. -/
theorem divide_induction {P : List Char → Prop} (unbroken : ∀ w, Unbroken w → P w)
    (divided : ∀ w b rest, Unbroken w → isBlank b = true → P rest → P (w ++ b :: rest))
    (cs : List Char) : P cs := by
  induction hlength : cs.length using Nat.strong_induction_on generalizing cs with
  | h n ih =>
    rcases unbroken_or_divided cs with h | ⟨w, b, rest, rfl, hw, hb⟩
    · exact unbroken cs h
    · refine divided w b rest hw hb (ih rest.length ?_ rest rfl)
      rw [← hlength, List.length_append, List.length_cons]
      omega

/-! ### Words -/

theorem words_cons_blank (h : isBlank b = true) (cs : List Char) : words (b :: cs) = words cs := by
  cases cs with
  | nil =>
    rw [words, words]
    exact if_pos h
  | cons c cs => rw [words, if_pos h]

theorem words_cons_ne_nil {c : Char} (h : isBlank c = false) (cs : List Char) :
    words (c :: cs) ≠ [] := by
  rw [← Bool.not_eq_true] at h
  cases cs with
  | nil =>
    rw [words, if_neg h]
    exact List.cons_ne_nil _ _
  | cons d cs =>
    rw [words, if_neg h]
    split
    · exact List.cons_ne_nil _ _
    · cases words (d :: cs) with
      | nil => exact List.cons_ne_nil _ _
      | cons piece pieces => exact List.cons_ne_nil _ _

/-- **The words of a divided text are those of its parts.** -/
theorem words_append_blank (h : isBlank b = true) (cs rest : List Char) :
    words (cs ++ b :: rest) = words cs ++ words rest := by
  -- induction on the front, with a look at the next character, as `words` takes it
  induction cs with
  | nil => rw [List.nil_append, words_cons_blank h, words, List.nil_append]
  | cons c cs ih =>
    cases cs with
    -- the blank ends the last word of the front, if there is one
    | nil =>
      rw [List.singleton_append, words, words, if_pos h, words_cons_blank h]
      split
      · rfl
      · rfl
    | cons d cs =>
      rw [List.cons_append, List.cons_append, words, words]
      rw [List.cons_append] at ih
      split
      · exact ih
      · split
        · rw [ih, List.cons_append]
        · -- the first word of the front gets one more character
          next hd =>
          rw [ih]
          rcases hfront : words (d :: cs) with - | ⟨piece, pieces⟩
          · rw [Bool.not_eq_true] at hd
            exact absurd hfront (words_cons_ne_nil hd cs)
          · rfl

/-! ### White space around a text -/

theorem words_gap_append (h : Gap gap) (cs : List Char) : words (gap ++ cs) = words cs := by
  induction gap with
  | nil => rfl
  | cons b gap ih =>
    obtain ⟨hb, hgap⟩ := gap_cons.1 h
    rw [List.cons_append, words_cons_blank hb, ih hgap]

theorem words_gap (h : Gap gap) : words gap = [] := by
  rw [← List.append_nil gap, words_gap_append h, words]

theorem words_append_gap (h : Gap gap) (cs : List Char) : words (cs ++ gap) = words cs := by
  cases gap with
  | nil => rw [List.append_nil]
  | cons b gap =>
    obtain ⟨hb, hgap⟩ := gap_cons.1 h
    rw [words_append_blank hb, words_gap hgap, List.append_nil]

/-- What is stripped are gaps, so the words stay. -/
theorem words_strip (cs : List Char) : words (strip cs) = words cs := by
  obtain ⟨front, back, hfront, hback, hsplit⟩ := exists_gaps cs
  calc words (strip cs) = words (front ++ strip cs) := (words_gap_append hfront _).symm
    _ = words (front ++ strip cs ++ back) := (words_append_gap hback _).symm
    _ = words cs := by rw [← hsplit]

/-! ### Single words -/

theorem words_of_unbroken (h : Unbroken w) (hne : w ≠ []) : words w = [w] := by
  induction w with
  | nil => exact absurd rfl hne
  | cons c w ih =>
    obtain ⟨hc, hw⟩ := unbroken_cons.1 h
    rw [← Bool.not_eq_true] at hc
    cases w with
    | nil => rw [words, if_neg hc]
    | cons d w =>
      have hd := (unbroken_cons.1 hw).1
      rw [← Bool.not_eq_true] at hd
      rw [words, if_neg hc, if_neg hd, ih hw (List.cons_ne_nil _ _), joinFirst]

theorem IsWord.words_eq (h : IsWord w) : words w = [w] :=
  words_of_unbroken h.unbroken h.ne_nil

/-- Without a blank there is one word, or none if there is no character. -/
theorem Unbroken.isWord_of_mem_words {v w : List Char} (hv : Unbroken v) (hw : w ∈ words v) :
    IsWord w := by
  by_cases hne : v = []
  · rw [hne, words] at hw
    exact absurd hw List.not_mem_nil
  · rw [words_of_unbroken hv hne, List.mem_singleton] at hw
    rw [hw]
    exact ⟨hne, hv⟩

/-- The words of a text are words. -/
theorem isWord_of_mem_words (cs : List Char) : ∀ w ∈ words cs, IsWord w := by
  induction cs using divide_induction with
  | unbroken v hv => exact fun w hw => hv.isWord_of_mem_words hw
  | divided v b rest hv hb ih =>
    intro w hw
    -- a word is in front of the first blank or behind it
    rw [words_append_blank hb, List.mem_append] at hw
    rcases hw with hw | hw
    · exact hv.isWord_of_mem_words hw
    · exact ih w hw

/-- **Words at single blanks are found again.** -/
theorem words_intercalate (h : ∀ w ∈ ws, IsWord w) : words ([' '].intercalate ws) = ws := by
  induction ws with
  | nil => rw [List.intercalate_nil, words]
  | cons w ws ih =>
    obtain ⟨hw, hws⟩ := List.forall_mem_cons.1 h
    cases ws with
    | nil => rw [List.intercalate_singleton, hw.words_eq]
    | cons w' ws =>
      rw [List.intercalate_cons_cons, List.append_assoc, List.singleton_append,
        words_append_blank (by decide), ih hws, hw.words_eq, List.singleton_append]

theorem Unbroken.lower (h : Unbroken w) : Unbroken (lower w) :=
  isBlank_of_mem_lowerFrom h false

/-- Lower-casing a text lower-cases its words. -/
theorem words_lower (cs : List Char) : words (lower cs) = (words cs).map lower := by
  have hunbroken : ∀ w, Unbroken w → words (lower w) = (words w).map lower := by
    intro w hw
    by_cases hne : w = []
    · rw [hne]
      rfl
    · rw [words_of_unbroken hw hne, words_of_unbroken hw.lower (mt lower_eq_nil_iff.1 hne),
        List.map_singleton]
  induction cs using divide_induction with
  | unbroken w hw => exact hunbroken w hw
  | divided w b rest hw hb ih =>
    rw [lower_append_blank hb, words_append_blank hb, words_append_blank hb, hunbroken w hw, ih,
      List.map_append]

/-! ### Spaced texts -/

theorem intercalate_append {sep : List Char} {xs ys : List (List Char)} (hx : xs ≠ [])
    (hy : ys ≠ []) :
    sep.intercalate (xs ++ ys) = sep.intercalate xs ++ sep ++ sep.intercalate ys := by
  induction xs with
  | nil => exact absurd rfl hx
  | cons x xs ih =>
    cases xs with
    | nil => rw [List.singleton_append, List.intercalate_cons_of_ne_nil hy,
        List.intercalate_singleton]
    | cons x' xs =>
      rw [List.cons_append, List.cons_append, List.intercalate_cons_cons, ← List.cons_append,
        ih (List.cons_ne_nil _ _), List.intercalate_cons_cons]
      simp only [List.append_assoc]

theorem spaced_of_unbroken (h : Unbroken w) : spaced w = w := by
  by_cases hne : w = []
  · rw [hne]
    rfl
  · rw [spaced, words_of_unbroken h hne, List.intercalate_singleton]

/-- White space at the beginning disappears. -/
theorem spaced_cons_blank (h : isBlank b = true) (rest : List Char) :
    spaced (b :: rest) = spaced rest := by
  rw [spaced, words_cons_blank h, spaced]

/-- White space at the end disappears. -/
theorem spaced_append_of_words_eq_nil (hw : Unbroken w) (hb : isBlank b = true)
    (h : words rest = []) : spaced (w ++ b :: rest) = w := by
  rw [spaced, words_append_blank hb, h, List.append_nil]
  exact spaced_of_unbroken hw

/-- White space between words becomes a single blank. -/
theorem spaced_append_of_words_ne_nil (hw : IsWord w) (hb : isBlank b = true)
    (h : words rest ≠ []) : spaced (w ++ b :: rest) = w ++ ' ' :: spaced rest := by
  rw [spaced, words_append_blank hb, hw.words_eq, intercalate_append (List.cons_ne_nil _ _) h,
    List.intercalate_singleton, List.append_assoc, List.singleton_append, spaced]

/-- Words at single blanks stay as they are. -/
theorem spaced_intercalate (h : ∀ w ∈ ws, IsWord w) :
    spaced ([' '].intercalate ws) = [' '].intercalate ws := by
  rw [spaced, words_intercalate h]

theorem spaced_eq_nil_iff {cs : List Char} : spaced cs = [] ↔ words cs = [] := by
  constructor
  · intro h
    have hwords : words (spaced cs) = words cs := words_intercalate (isWord_of_mem_words cs)
    rw [← hwords, h, words]
  · intro h
    rw [spaced, h, List.intercalate_nil]

/-- The first of some words starts their text. -/
theorem prefix_intercalate (w : List Char) (ws : List (List Char)) :
    w <+: [' '].intercalate (w :: ws) := by
  cases ws with
  | nil => rw [List.intercalate_singleton]
  | cons w' ws =>
    rw [List.intercalate_cons_cons, List.append_assoc]
    exact List.prefix_append _ _

/-- The last of some words ends their text. -/
theorem suffix_intercalate (ws : List (List Char)) (w : List Char) :
    w <:+ [' '].intercalate (ws ++ [w]) := by
  by_cases h : ws = []
  · rw [h, List.nil_append, List.intercalate_singleton]
  · rw [intercalate_append h (List.cons_ne_nil _ _), List.intercalate_singleton]
    exact List.suffix_append _ _

/-- A spaced text begins and ends with letters, so there is nothing to strip. -/
theorem strip_spaced (cs : List Char) : strip (spaced cs) = spaced cs := by
  have hword := isWord_of_mem_words cs
  rw [spaced]
  -- the text begins with its first word and ends with its last, and words hold no blank
  refine strip_of_ends ?_ ?_
  · intro c hc
    rcases hws : words cs with - | ⟨w, ws⟩
    · rw [hws, List.intercalate_nil] at hc
      cases hc
    · rw [hws] at hc hword
      have hw := hword w List.mem_cons_self
      obtain ⟨rest, hrest⟩ := prefix_intercalate w ws
      rw [← hrest, List.head?_append_of_ne_nil _ hw.ne_nil] at hc
      exact hw.unbroken c (List.mem_of_mem_head? hc)
  · intro c hc
    rcases List.eq_nil_or_concat (words cs) with hws | ⟨ws, w, hws⟩
    · rw [hws, List.intercalate_nil] at hc
      cases hc
    · rw [hws, List.concat_eq_append] at hc hword
      have hw := hword w (List.mem_append_right _ List.mem_cons_self)
      obtain ⟨front, hfront⟩ := suffix_intercalate ws w
      rw [← hfront, List.getLast?_append_of_ne_nil _ hw.ne_nil] at hc
      exact hw.unbroken c (List.mem_of_getLast? hc)

theorem length_spaced_le (cs : List Char) : (spaced cs).length ≤ cs.length := by
  induction cs using divide_induction with
  | unbroken w hw => rw [spaced_of_unbroken hw]
  | divided w b rest hw hb ih =>
    -- white space in front and at the end goes, and between words one space stays of it
    by_cases hne : w = []
    · rw [hne, List.nil_append, spaced_cons_blank hb, List.length_cons]
      omega
    · by_cases hrest : words rest = []
      · rw [spaced_append_of_words_eq_nil hw hb hrest, List.length_append]
        omega
      · rw [spaced_append_of_words_ne_nil ⟨hne, hw⟩ hb hrest, List.length_append,
          List.length_append, List.length_cons, List.length_cons]
        omega

/-! ### Spaced parts -/

section Part

variable {part x y : List Char}

/-- More letters in front of a spaced text that is not empty. -/
theorem spaced_append_left (hx : Unbroken x) (h : spaced part = part) (hne : part ≠ []) :
    spaced (x ++ part) = x ++ part := by
  obtain ⟨w, ws, hws⟩ : ∃ w ws, words part = w :: ws :=
    List.exists_cons_of_ne_nil fun hnil => hne (h ▸ spaced_eq_nil_iff.2 hnil)
  have hword := isWord_of_mem_words part
  rw [hws] at hword
  obtain ⟨hw, hrest⟩ := List.forall_mem_cons.1 hword
  -- the first word gets longer
  have hjoined : x ++ part = [' '].intercalate ((x ++ w) :: ws) := by
    rw [← h, spaced, hws]
    cases ws with
    | nil => rw [List.intercalate_singleton, List.intercalate_singleton]
    | cons w' ws => simp only [List.intercalate_cons_cons, List.append_assoc]
  rw [hjoined]
  refine spaced_intercalate (List.forall_mem_cons.2 ⟨⟨?_, hx.append hw.unbroken⟩, hrest⟩)
  exact List.append_ne_nil_of_right_ne_nil x hw.ne_nil

/-- More letters behind a spaced text that is not empty. -/
theorem spaced_append_right (hy : Unbroken y) (h : spaced part = part) (hne : part ≠ []) :
    spaced (part ++ y) = part ++ y := by
  obtain ⟨ws, w, hws⟩ : ∃ ws w, words part = ws ++ [w] := by
    rcases List.eq_nil_or_concat (words part) with hnil | ⟨ws, w, hws⟩
    · exact absurd (h ▸ spaced_eq_nil_iff.2 hnil) hne
    · exact ⟨ws, w, by rw [hws, List.concat_eq_append]⟩
  have hword := isWord_of_mem_words part
  rw [hws] at hword
  obtain ⟨hrest, hw⟩ := List.forall_mem_append.1 hword
  have hw := hw w List.mem_cons_self
  -- the last word gets longer
  have hjoined : part ++ y = [' '].intercalate (ws ++ [w ++ y]) := by
    rw [← h, spaced, hws]
    by_cases hnil : ws = []
    · rw [hnil, List.nil_append, List.nil_append, List.intercalate_singleton,
        List.intercalate_singleton]
    · rw [intercalate_append hnil (List.cons_ne_nil _ _),
        intercalate_append hnil (List.cons_ne_nil _ _), List.intercalate_singleton,
        List.intercalate_singleton, List.append_assoc]
  rw [hjoined]
  refine spaced_intercalate (List.forall_mem_append.2 ⟨hrest, ?_⟩)
  intro v hv
  rw [List.mem_singleton.1 hv]
  exact ⟨List.append_ne_nil_of_left_ne_nil hw.ne_nil y, hw.unbroken.append hy⟩

/-- What stands in front of a part gives words of its own, and letters that
belong to the first word of the part. -/
theorem exists_words_append_left (before : List Char) :
    ∃ x front, Unbroken x ∧ ∀ part, words (before ++ part) = front ++ words (x ++ part) := by
  induction before using divide_induction with
  | unbroken w hw => exact ⟨w, [], hw, fun _ => rfl⟩
  | divided w b rest hw hb ih =>
    obtain ⟨x, front, hx, hfront⟩ := ih
    refine ⟨x, words w ++ front, hx, fun part => ?_⟩
    rw [List.append_assoc, List.cons_append, words_append_blank hb, hfront, List.append_assoc]

/-- What stands behind a part gives letters that belong to its last word, and
words of its own. -/
theorem exists_words_append_right (after : List Char) :
    ∃ y back, Unbroken y ∧ ∀ part, words (part ++ after) = words (part ++ y) ++ back := by
  rcases unbroken_or_divided after with h | ⟨w, b, rest, rfl, hw, hb⟩
  · exact ⟨after, [], h, fun _ => (List.append_nil _).symm⟩
  · refine ⟨w, words rest, hw, fun part => ?_⟩
    rw [← List.append_assoc, words_append_blank hb]

/-- Some words in a row are one part of the whole. -/
theorem intercalate_infix {middle : List (List Char)} (h : middle ≠ [])
    (front back : List (List Char)) :
    [' '].intercalate middle <:+: [' '].intercalate (front ++ (middle ++ back)) := by
  have hmiddle : [' '].intercalate middle <+: [' '].intercalate (middle ++ back) := by
    by_cases hback : back = []
    · rw [hback, List.append_nil]
    · rw [intercalate_append h hback, List.append_assoc]
      exact List.prefix_append _ _
  by_cases hfront : front = []
  · rw [hfront, List.nil_append]
    exact hmiddle.isInfix
  · rw [intercalate_append hfront (List.append_ne_nil_of_left_ne_nil h back)]
    exact hmiddle.isInfix.trans (List.suffix_append _ _).isInfix

/-- **A spaced part of a text is a part of the spaced text.** -/
theorem infix_spaced (hpart : part <:+: cs) (h : spaced part = part) : part <:+: spaced cs := by
  by_cases hne : part = []
  · rw [hne]
    exact List.nil_infix
  · obtain ⟨before, after, rfl⟩ := hpart
    obtain ⟨x, front, hx, hfront⟩ := exists_words_append_left before
    obtain ⟨y, back, hy, hback⟩ := exists_words_append_right after
    -- the part with the letters next to it is spaced too
    have hgrown : spaced (x ++ (part ++ y)) = x ++ (part ++ y) :=
      spaced_append_left hx (spaced_append_right hy h hne)
        (List.append_ne_nil_of_left_ne_nil hne y)
    have hwords : words (x ++ (part ++ y)) ≠ [] := by
      intro hnil
      rw [spaced_eq_nil_iff.2 hnil] at hgrown
      exact absurd hgrown.symm (by simp [hne])
    have hwhole : words (before ++ part ++ after)
        = front ++ (words (x ++ (part ++ y)) ++ back) := by
      rw [List.append_assoc, hfront, ← List.append_assoc, hback, List.append_assoc]
    calc part <:+: x ++ (part ++ y) :=
          (List.prefix_append part y).isInfix.trans (List.suffix_append x _).isInfix
      _ = spaced (x ++ (part ++ y)) := hgrown.symm
      _ <:+: spaced (before ++ part ++ after) := by
          rw [spaced, spaced, hwhole]
          exact intercalate_infix hwords front back

end Part

/-! ### Lower case -/

theorem lower_intercalate (ws : List (List Char)) :
    lower ([' '].intercalate ws) = [' '].intercalate (ws.map lower) := by
  induction ws with
  | nil => rfl
  | cons w ws ih =>
    cases ws with
    | nil => rw [List.map_singleton, List.intercalate_singleton, List.intercalate_singleton]
    | cons w' ws =>
      rw [List.map_cons] at ih ⊢
      rw [List.map_cons, List.intercalate_cons_cons, List.intercalate_cons_cons, List.append_assoc,
        List.append_assoc, List.singleton_append, List.singleton_append,
        lower_append_blank (by decide), ih]

/-- **Spacing and lower-casing commute.** -/
theorem lower_spaced (cs : List Char) : lower (spaced cs) = spaced (lower cs) := by
  rw [spaced, lower_intercalate, spaced, words_lower]

/-- A text whose lower case is spaced is spaced. -/
theorem spaced_of_spaced_lower (h : spaced (lower cs) = lower cs) : spaced cs = cs := by
  induction cs using divide_induction with
  | unbroken w hw => exact spaced_of_unbroken hw
  | divided w b rest hw hb ih =>
    rw [lower_append_blank hb] at h
    have hlength := length_spaced_le (lower rest)
    by_cases hne : w = []
    · -- white space at the beginning would have disappeared
      rw [hne, lower_eq_nil_iff.2 rfl, List.nil_append, spaced_cons_blank hb] at h
      rw [h, List.length_cons] at hlength
      omega
    · by_cases hrest : words rest = []
      · -- and so would white space at the end
        rw [spaced_append_of_words_eq_nil hw.lower hb (by rw [words_lower, hrest, List.map_nil])] at h
        have hshort := congrArg List.length h
        rw [List.length_append, List.length_cons] at hshort
        omega
      · have hlower : words (lower rest) ≠ [] := by
          rw [words_lower]
          exact mt List.map_eq_nil_iff.1 hrest
        rw [spaced_append_of_words_ne_nil ⟨mt lower_eq_nil_iff.1 hne, hw.lower⟩ hb hlower] at h
        obtain ⟨hblank, hspaced⟩ := List.cons.inj (List.append_cancel_left h)
        rw [spaced_append_of_words_ne_nil ⟨hne, hw⟩ hb hrest, ih hspaced, hblank]

end TableQuery.Text
