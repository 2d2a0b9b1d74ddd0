/-
TableQuery/Proofs/Text/Surroundings.lean

The lower case of a part, wherever the part stands.

What stands around a part of a text decides about its lower case through two
bits only: whether a cased letter comes in front of it, and whether one comes
behind it, each time looking through accents and the like (`lowerBetween`).
A letter in front can only make a sigma final and a letter behind can only
keep one from being final, so the four lower cases of a part are ordered
(`lowerBetween_mono`): the one between two letters lies between those with a
single letter.  A part that has its own lower case behind a letter and before
one therefore has it everywhere (`SteadyCase.lowerBetween_eq`).

In the other direction, a final sigma is another character: a lower case with
more of them than the text has does not stand in the text.  So a part whose
lower case does change is missed in one of two texts (`steadyCase_iff_isInfix`).
-/
import Mathlib.Data.List.Forall2
import TableQuery.Proofs.Text.Lowercase

namespace TableQuery.Text

/-! ### Two bits -/

/-- Whether a cased letter comes first, or else behind the text. -/
def startsCasedBefore (beforeCased : Bool) : List Char → Bool
  | [] => beforeCased
  | c :: cs => if isCaseIgnorable c then startsCasedBefore beforeCased cs else isCased c

/-- Whether a cased letter comes last, or else in front of the text. -/
def endsCasedAfter (afterCased : Bool) : List Char → Bool
  | [] => afterCased
  | c :: cs => endsCasedAfter (if isCaseIgnorable c then afterCased else isCased c) cs

/-- The lower case of a part; the bits say whether a cased letter stands before
it and behind it. -/
def lowerBetween (afterCased beforeCased : Bool) : List Char → List Char
  | [] => []
  | c :: cs =>
    lowerChar (afterCased && !startsCasedBefore beforeCased cs) c ++
      lowerBetween (if isCaseIgnorable c then afterCased else isCased c) beforeCased cs

theorem startsCased_append (xs ys : List Char) :
    startsCased (xs ++ ys) = startsCasedBefore (startsCased ys) xs := by
  induction xs with
  | nil => rfl
  | cons c xs ih => rw [List.cons_append, startsCased, startsCasedBefore, ih]

/-- **The lower case of a text is that of its parts**, each with the bits of its
surroundings. -/
theorem lowerFrom_append (afterCased : Bool) (xs ys : List Char) :
    lowerFrom afterCased (xs ++ ys)
      = lowerBetween afterCased (startsCased ys) xs
        ++ lowerFrom (endsCasedAfter afterCased xs) ys := by
  induction xs generalizing afterCased with
  | nil => rfl
  | cons c xs ih =>
    rw [List.cons_append, lowerFrom, lowerBetween, endsCasedAfter, startsCased_append, ih,
      List.append_assoc]

theorem lowerFrom_eq_lowerBetween (afterCased : Bool) (cs : List Char) :
    lowerFrom afterCased cs = lowerBetween afterCased false cs := by
  have happend := lowerFrom_append afterCased cs []
  rwa [List.append_nil, lowerFrom, List.append_nil] at happend

/-- A part of a text stands in the lower case of the text as it is lower-cased
between its surroundings. -/
theorem lowerBetween_isInfix (before part after : List Char) :
    lowerBetween (endsCasedAfter false before) (startsCased after) part
      <:+: lower (before ++ part ++ after) := by
  rw [lower, List.append_assoc, lowerFrom_append, lowerFrom_append, ← List.append_assoc]
  exact List.infix_append _ _ _

/-! ### Final sigmas -/

/-- A character, or a final sigma for a sigma. -/
def MaybeFinal (c d : Char) : Prop := c = d ∨ (c = 'σ' ∧ d = 'ς')

/-- Some lower case with more final sigmas. -/
abbrev MoreFinal : List Char → List Char → Prop := List.Forall₂ MaybeFinal

theorem MoreFinal.refl (cs : List Char) : MoreFinal cs cs :=
  List.forall₂_same.2 fun _ _ => .inl rfl

theorem MaybeFinal.antisymm {c d : Char} (h : MaybeFinal c d) (h' : MaybeFinal d c) : c = d := by
  rcases h with h | ⟨rfl, rfl⟩
  · exact h
  · rcases h' with h' | ⟨h', -⟩
    · exact h'.symm
    · exact h'.symm

theorem MoreFinal.antisymm {xs ys : List Char} (h : MoreFinal xs ys) (h' : MoreFinal ys xs) :
    xs = ys := by
  induction h with
  | nil => rfl
  | cons hc _ ih =>
    obtain ⟨hd, hrest⟩ := List.forall₂_cons.1 h'
    rw [hc.antisymm hd, ih hrest]

theorem lowerChar_mono {e e' : Bool} (h : e = true → e' = true) (c : Char) :
    MoreFinal (lowerChar e c) (lowerChar e' c) := by
  -- only a capital sigma looks at whether it ends a word
  by_cases hc : c = 'Σ'
  · subst hc
    cases e with
    | false => cases e' with
      | false => exact .refl _
      | true => exact .cons (.inr ⟨rfl, rfl⟩) .nil
    | true =>
      rw [h rfl]
      exact .refl _
  · rw [lowerChar_of_ne hc e e']
    exact .refl _

theorem startsCasedBefore_mono {b b' : Bool} (h : b = true → b' = true) {cs : List Char}
    (hcs : startsCasedBefore b cs = true) : startsCasedBefore b' cs = true := by
  induction cs with
  | nil => exact h hcs
  | cons c cs ih =>
    rw [startsCasedBefore] at hcs ⊢
    -- ignorable characters are passed over; the first other one decides without a look behind
    split at hcs
    · next hc =>
      rw [if_pos hc]
      exact ih hcs
    · next hc =>
      rw [if_neg hc]
      exact hcs

/-- **A letter in front makes sigmas final, a letter behind keeps them from being
final.** -/
theorem lowerBetween_mono {a a' b b' : Bool} (ha : a = true → a' = true)
    (hb : b' = true → b = true) (cs : List Char) :
    MoreFinal (lowerBetween a b cs) (lowerBetween a' b' cs) := by
  induction cs generalizing a a' with
  | nil => exact .nil
  | cons c cs ih =>
    rw [lowerBetween, lowerBetween]
    refine List.rel_append (lowerChar_mono ?_ c) (ih ?_)
    · simp only [Bool.and_eq_true, Bool.not_eq_true', ← Bool.not_eq_true]
      exact And.imp ha (mt (startsCasedBefore_mono hb))
    · split
      · exact ha
      · exact id

/-! ### Texts with a steady case -/

/-- The lower case of a text stays as it is behind a letter and before one. -/
structure SteadyCase (cs : List Char) : Prop where
  behind : lower ('A' :: cs) = 'a' :: lower cs
  before : lower (cs ++ ['A']) = lower cs ++ ['a']

section SteadyCase

variable {part : List Char}

theorem lower_letter_cons (cs : List Char) :
    lower ('A' :: cs) = 'a' :: lowerBetween true false cs := by
  have hignorable : isCaseIgnorable 'A' = false := by decide
  have hcased : isCased 'A' = true := by decide
  have hletter : lowerChar false 'A' = ['a'] := by decide
  rw [lower, lowerFrom, Bool.false_and, hletter, hignorable, if_neg Bool.false_ne_true, hcased,
    lowerFrom_eq_lowerBetween]
  rfl

theorem lower_append_letter (cs : List Char) :
    lower (cs ++ ['A']) = lowerBetween false true cs ++ ['a'] := by
  have hcased : startsCased ['A'] = true := by decide
  have hletter : ∀ bit, lowerFrom bit ['A'] = ['a'] := by decide
  rw [lower, lowerFrom_append, hcased, hletter]

theorem steadyCase_iff : SteadyCase part ↔
    lowerBetween true false part = lower part ∧ lowerBetween false true part = lower part := by
  constructor
  · rintro ⟨hbehind, hbefore⟩
    rw [lower_letter_cons] at hbehind
    rw [lower_append_letter] at hbefore
    exact ⟨List.tail_eq_of_cons_eq hbehind, List.append_cancel_right hbefore⟩
  · rintro ⟨hbehind, hbefore⟩
    exact ⟨by rw [lower_letter_cons, hbehind], by rw [lower_append_letter, hbefore]⟩

/-- **A text with a steady case has its lower case wherever it stands.** -/
theorem SteadyCase.lowerBetween_eq (h : SteadyCase part) (afterCased beforeCased : Bool) :
    lowerBetween afterCased beforeCased part = lower part := by
  obtain ⟨hbehind, hbefore⟩ := steadyCase_iff.1 h
  cases afterCased with
  | false => cases beforeCased with
    | false => exact (lowerFrom_eq_lowerBetween false part).symm
    | true => exact hbefore
  | true => cases beforeCased with
    | false => exact hbehind
    | true =>
      -- between two letters there are not more final sigmas than behind one, nor fewer than
      -- before one
      have hnotMore : MoreFinal (lowerBetween true true part) (lowerBetween true false part) :=
        lowerBetween_mono id Bool.false_ne_true.elim part
      have hnotLess : MoreFinal (lowerBetween false true part) (lowerBetween true true part) :=
        lowerBetween_mono (fun _ => rfl) id part
      rw [hbehind] at hnotMore
      rw [hbefore] at hnotLess
      exact hnotMore.antisymm hnotLess

theorem SteadyCase.isInfix (h : SteadyCase part) (before after : List Char) :
    lower part <:+: lower (before ++ part ++ after) := by
  rw [← h.lowerBetween_eq (endsCasedAfter false before) (startsCased after)]
  exact lowerBetween_isInfix before part after

/-! ### Texts with an unsteady case -/

/-- The sigmas that have become final are counted on both sides. -/
theorem MoreFinal.exists_count {xs ys : List Char} (h : MoreFinal xs ys) :
    ∃ k, xs.count 'σ' = ys.count 'σ' + k ∧ ys.count 'ς' = xs.count 'ς' + k ∧ (k = 0 → xs = ys) := by
  induction h with
  | nil => exact ⟨0, rfl, rfl, fun _ => rfl⟩
  | @cons c d xs ys hc _ ih =>
    obtain ⟨k, hsigma, hfinal, hsame⟩ := ih
    simp only [List.count_cons]
    rcases hc with rfl | ⟨rfl, rfl⟩
    · exact ⟨k, by omega, by omega, fun hk => by rw [hsame hk]⟩
    · refine ⟨k + 1, ?_, ?_, fun hk => absurd hk (Nat.succ_ne_zero k)⟩
      · rw [if_pos (by decide), if_neg (by decide)]
        omega
      · rw [if_pos (by decide), if_neg (by decide)]
        omega

/-- What does not lose sigmas on becoming final stays. -/
theorem MoreFinal.eq_of_count_sigma {xs ys : List Char} (h : MoreFinal xs ys)
    (hcount : xs.count 'σ' ≤ ys.count 'σ') : xs = ys := by
  obtain ⟨k, hsigma, -, hsame⟩ := h.exists_count
  exact hsame (by omega)

theorem MoreFinal.eq_of_count_final {xs ys : List Char} (h : MoreFinal xs ys)
    (hcount : ys.count 'ς' ≤ xs.count 'ς') : xs = ys := by
  obtain ⟨k, -, hfinal, hsame⟩ := h.exists_count
  exact hsame (by omega)

/-- **The case of a text is steady exactly if its lower case stands in that of the
text with a letter in front and in that of the text with a letter behind.** -/
theorem steadyCase_iff_isInfix : SteadyCase part ↔
    lower part <:+: lower ('A' :: part) ∧ lower part <:+: lower (part ++ ['A']) := by
  constructor
  · rintro ⟨hbehind, hbefore⟩
    rw [hbehind, hbefore]
    exact ⟨(List.suffix_cons _ _).isInfix, (List.prefix_append _ _).isInfix⟩
  · rintro ⟨hbehind, hbefore⟩
    rw [lower_letter_cons] at hbehind
    rw [lower_append_letter] at hbefore
    rw [steadyCase_iff, lower, lowerFrom_eq_lowerBetween]
    rw [lower, lowerFrom_eq_lowerBetween] at hbehind hbefore
    -- a letter beside the part can only turn final sigmas into others, or the reverse, so the
    -- two lower cases are the same if they have as many of them
    constructor
    · have hmore : MoreFinal (lowerBetween false false part) (lowerBetween true false part) :=
        lowerBetween_mono (fun _ => rfl) id part
      have hcount := hbehind.sublist.count_le 'σ'
      rw [List.count_cons_of_ne (by decide)] at hcount
      exact (hmore.eq_of_count_sigma hcount).symm
    · have hmore : MoreFinal (lowerBetween false true part) (lowerBetween false false part) :=
        lowerBetween_mono id Bool.false_ne_true.elim part
      have hcount := hbefore.sublist.count_le 'ς'
      rw [List.count_append, List.count_singleton, if_neg (by decide), Nat.add_zero] at hcount
      exact hmore.eq_of_count_final hcount

/-- The case of a text without a capital sigma is steady. -/
theorem steadyCase_of_not_mem (h : 'Σ' ∉ part) : SteadyCase part := by
  rw [steadyCase_iff_isInfix]
  have hbehind := lower_infix_of_not_mem h ['A'] []
  rw [List.append_nil] at hbehind
  exact ⟨hbehind, lower_infix_of_not_mem h [] ['A']⟩

end SteadyCase

end TableQuery.Text
