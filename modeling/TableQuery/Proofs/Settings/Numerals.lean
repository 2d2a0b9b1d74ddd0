/-
TableQuery/Proofs/Settings/Numerals.lean

Numbers that a setting's text spells.

A setting's text may be more than a numeral: there may be white space around
it, underscores in it, or a word in place of digits.  A spelling in plain
digits is none of these, so it is read as the number of its numeral
(`Spelling.readReal?_chars`), an infinity if that is what the numeral rounds
to.

Where a whole number belongs, the number that is read is cut to its whole part.
For the text of a whole number nothing is left to cut, since the nearest
binary64 number is whole; what is changed is changed by rounding
(`Datum.coerce_integerText`).
-/
import TableQuery.Proofs.Number.Bits
import TableQuery.Proofs.Text.Blank
import TableQuery.Settings.Coercion

namespace TableQuery

open Text

/-! ### Reading a spelling -/

/-- A text without underscores is left as it is. -/
theorem dropGrouping?_of_not_mem {cs : List Char} (h : '_' ∉ cs) (afterDigit : Bool) :
    dropGrouping? afterDigit cs = some cs := by
  induction cs generalizing afterDigit with
  | nil => rfl
  | cons c cs ih =>
    rw [List.mem_cons, not_or] at h
    rw [dropGrouping?, ih h.2]
    · rfl
    · exact Ne.symm h.1

namespace Spelling

variable {s : Spelling}

theorem isNumberBlank_of_mem_chars (h : s.WellFormed) {c : Char} (hc : c ∈ s.chars) :
    isNumberBlank c = false := by
  rw [isNumberBlank, isBlank_of_mem_chars h hc, Bool.false_and]

theorem underscore_not_mem_chars (h : s.WellFormed) : '_' ∉ s.chars := by
  intro hc
  rcases mem_chars h hc with hdigit | hmark
  · exact absurd hdigit (by decide)
  · exact absurd hmark (by decide)

/-- A digit from 0 to 9 is no letter, in either case. -/
theorem toLower_of_isDigit {c : Char} (h : c.isDigit = true) : c.toLower = c := by
  have hhigh : c.toNat ≤ 57 := by
    rw [Char.isDigit, Bool.and_eq_true, decide_eq_true_eq, decide_eq_true_eq] at h
    exact h.2
  refine dif_neg fun hupper => ?_
  have hlow : 65 ≤ c.toNat := hupper.1
  omega

/-- A spelling is none of the words for values without digits. -/
theorem readNamed?_chars (h : s.WellFormed) : readNamed? s.chars = none := by
  obtain ⟨d, ds, hwhole⟩ := List.exists_cons_of_ne_nil h.whole_ne_nil
  have hd : d.isDigit = true := h.whole_digits d (by rw [hwhole]; exact List.mem_cons_self)
  have hsign : readSign s.chars
      = (s.negative, d :: (ds ++ (pointed s.fraction ++ powered s.exponent))) := by
    rw [chars, hwhole]
    refine readSign_append (writesSign_signed s.negative) ?_
    intro c hc
    obtain rfl : d = c := Option.some.inj hc
    constructor
    · rintro rfl
      exact absurd hd (by decide)
    · rintro rfl
      exact absurd hd (by decide)
  -- the name would start with the digit
  have hname : ∀ name : String, name.toList.head?.any Char.isDigit = false → ∀ rest,
      String.ofList ((d :: rest).map Char.toLower) ≠ name := by
    rintro name hfirst rest rfl
    rw [String.toList_ofList, List.map_cons, toLower_of_isDigit hd, List.head?_cons,
      Option.any_some, hd] at hfirst
    cases hfirst
  rw [readNamed?, hsign]
  dsimp only
  rw [if_neg, if_neg (hname "nan" (by decide) _)]
  exact not_or.2 ⟨hname "inf" (by decide) _, hname "infinity" (by decide) _⟩

/-- There is nothing to strip from a spelling. -/
theorem stripNumber_chars (h : s.WellFormed) : stripNumber s.chars = s.chars := by
  have htrim {cs : List Char} (hcs : ∀ c ∈ cs, isNumberBlank c = false) :
      cs.dropWhile isNumberBlank = cs :=
    dropWhile_of_head? fun c hc => hcs c (List.mem_of_mem_head? hc)
  have hblank : ∀ c ∈ s.chars, isNumberBlank c = false := fun c => isNumberBlank_of_mem_chars h
  rw [stripNumber, htrim hblank, htrim fun c hc => hblank c (List.mem_reverse.1 hc),
    List.reverse_reverse]

/-- **A setting with a spelling is read as the number of its numeral**, which
may be an infinity. -/
theorem readReal?_chars (h : s.WellFormed) :
    readReal? (String.ofList s.chars) = some s.numeral.toBinary64 := by
  rw [readReal?, String.toList_ofList, stripNumber_chars h,
    dropGrouping?_of_not_mem (underscore_not_mem_chars h)]
  simp only [readNamed?_chars h, read?_chars h, Option.map_some]

end Spelling

/-! ### Whole numbers -/

namespace Datum

open Binary64

/-- Where a whole number belongs, a text is the whole part of the number that it
is read as. -/
theorem coerce_whole_text {s : String} {x : Binary64} (h : readReal? s = some x) :
    coerce .whole (.text s) = Datum.integer <$> wholePart x := by
  show Datum.integer <$> (numberOfText s).bind wholePart = _
  rw [numberOfText, h]
  rfl

theorem readReal?_integerText (n : Int) : readReal? (integerText n) = some (ofInt n) := by
  rw [integerText_eq_ofWhole, Spelling.readReal?_chars (Spelling.wellFormed_ofWhole n),
    toBinary64_ofWhole]

/-- The nearest number of a whole number in range has no other part. -/
theorem wholePart_ofInt {n : Int} (h : n.natAbs < integerBound) :
    wholePart (ofInt n) = .ok (roundWhole n) := by
  obtain ⟨hunits, heq⟩ := exists_ofInt_eq_roundWhole h
  rw [heq, wholePart, Nat.mul_div_cancel _ unitsPerOne_pos, natAbs_roundWhole]
  rfl

/-- **The text of a whole number stands for the nearest one of 53 bits.** -/
theorem coerce_integerText {n : Int} (h : n.natAbs < integerBound) :
    coerce .whole (.text (integerText n)) = .ok (.integer (roundWhole n)) := by
  rw [coerce_whole_text (readReal?_integerText n), wholePart_ofInt h]
  rfl

/-- The text of a whole number past the largest stands for an infinity. -/
theorem coerce_integerText_of_le {n : Int} (h : integerBound ≤ n.natAbs) :
    coerce .whole (.text (integerText n)) = .error .infinite := by
  rw [coerce_whole_text (readReal?_integerText n), ofInt_of_le h]
  rfl

end Datum

end TableQuery
