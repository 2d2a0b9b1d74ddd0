/-
TableQuery/Proofs/Number/Notation.lean

Written numbers are read back.

Every layout puts the digits of a decimal into a well-formed spelling, and
wherever the point goes, the spelling stands for the same decimal: the zeros
that are dropped at the end of the digits, or added in front of them or behind
them, are made up for by the exponent (`Layout.exists_spelling_write`).  With
the shortest decimal of a number, which is read as the number, this gives the
first main result: the plain form of a number is read as the number
(`Binary64.readNumber?_plain`).  Zero is left out, for no decimal is written
for it.  The second is about whole numbers, whose text has all their digits
and is read as the nearest number (`Binary64.readNumber?_integerText`).
-/
import TableQuery.Cell
import TableQuery.Proofs.Number.Decimal
import TableQuery.Proofs.Number.Numeral

namespace TableQuery

open Text

/-! ### The value of a spelling -/

namespace Spelling

theorem coefficient_numeral (s : Spelling) :
    s.numeral.coefficient = Nat.ofDigitChars 10 (s.whole ++ s.fraction.getD []) 0 := by
  rw [Numeral.coefficient, ← digitsValue_digitsOf, digitsOf_append]
  rfl

theorem scale_numeral (s : Spelling) :
    s.numeral.scale = power s.exponent - (s.fraction.getD []).length := by
  rw [Numeral.scale, numeral, length_digitsOf]

/-- A spelling stands for a decimal of some digits, the first of which has this
power of ten. -/
structure Spells (s : Spelling) (negative : Bool) (digits : List Char) (leading : Int) : Prop where
  wellFormed : s.WellFormed
  toBinary64 : s.numeral.toBinary64
    = .ofDecimal negative (Nat.ofDigitChars 10 digits 0) (leading + 1 - digits.length)

/-- The digits of a spelling may have further zeros at their end, if the scale
makes up for them. -/
theorem spells_of_zeros {s : Spelling} (h : s.WellFormed) {digits : List Char} {leading : Int}
    (zeros : Nat)
    (hcoefficient : s.numeral.coefficient = Nat.ofDigitChars 10 digits 0 * 10 ^ zeros)
    (hscale : s.numeral.scale + zeros = leading + 1 - digits.length) :
    s.Spells s.negative digits leading where
  wellFormed := h
  toBinary64 := by
    show Binary64.ofDecimal s.negative s.numeral.coefficient s.numeral.scale = _
    rw [hcoefficient, Binary64.ofDecimal_mul_pow, hscale]

end Spelling

/-! ### The parts of a layout -/

/-- Dropping the zeros at the end leaves the digits in front of them. -/
theorem exists_eq_dropTrailingZeros_append (cs : List Char) :
    ∃ zeros, cs = dropTrailingZeros cs ++ List.replicate zeros '0' := by
  induction cs with
  | nil => exact ⟨0, rfl⟩
  | cons d ds ih =>
    obtain ⟨zeros, hzeros⟩ := ih
    rw [dropTrailingZeros]
    split
    · next hnil =>
      rw [hnil, List.nil_append] at hzeros
      exact ⟨zeros, by rw [hzeros]; rfl⟩
    · next hzero =>
      rw [hzero] at hzeros
      exact ⟨zeros + 1, by rw [hzeros]; rfl⟩
    · exact ⟨zeros, by rw [List.cons_append, ← hzeros]⟩

theorem dropTrailingZeros_ne_nil {cs : List Char} (h : cs ≠ []) : dropTrailingZeros cs ≠ [] := by
  rcases cs with - | ⟨d, ds⟩
  · exact absurd rfl h
  · rw [dropTrailingZeros]
    split <;> exact List.cons_ne_nil _ _

/-- Zeros in front do not count. -/
theorem ofDigitChars_zeros_append (zeros : Nat) (cs : List Char) :
    Nat.ofDigitChars 10 (List.replicate zeros '0' ++ cs) 0 = Nat.ofDigitChars 10 cs 0 := by
  rw [Nat.ofDigitChars_append, Nat.ofDigitChars_replicate_zero, Nat.mul_zero]

/-- Each zero behind counts ten times. -/
theorem ofDigitChars_append_zeros (zeros : Nat) (cs : List Char) :
    Nat.ofDigitChars 10 (cs ++ List.replicate zeros '0') 0
      = Nat.ofDigitChars 10 cs 0 * 10 ^ zeros := by
  rw [Nat.ofDigitChars_append, Nat.ofDigitChars_replicate_zero, Nat.mul_comm]

theorem allDigits_digitsPadded (width n : Nat) : AllDigits (digitsPadded width n) :=
  (allDigits_replicate_zero _).append (allDigits_toDigits n)

theorem ofDigitChars_digitsPadded (width n : Nat) :
    Nat.ofDigitChars 10 (digitsPadded width n) 0 = n := by
  rw [digitsPadded, padZeros, ofDigitChars_zeros_append, Nat.ofDigitChars_ten_toDigits]

theorem digitsPadded_ne_nil (width n : Nat) : digitsPadded width n ≠ [] :=
  List.append_ne_nil_of_right_ne_nil _ Nat.toDigits_ne_nil

/-! ### The three forms -/

namespace Spelling

variable (negative : Bool) {digits : List Char}

/-- Digits far behind the point: zeros stand between. -/
def ofSmall (digits : List Char) (zeros : Nat) : Spelling where
  negative
  whole := ['0']
  fraction := some (List.replicate zeros '0' ++ digits)
  exponent := none

/-- Digits around the point: zeros fill up to it, and one stands behind it. -/
def ofModerate (digits : List Char) (leading : Nat) : Spelling where
  negative
  whole := digits.take (leading + 1) ++ List.replicate (leading + 1 - digits.length) '0'
  fraction := some (if (digits.drop (leading + 1)).isEmpty then ['0']
    else digits.drop (leading + 1))
  exponent := none

/-- The first digit in front of the point, the others behind it, and an
exponent. -/
def ofExtreme (digit : Char) (others : List Char) (width : Nat) (leading : Int) : Spelling where
  negative
  whole := [digit]
  fraction := if others.isEmpty then none else some others
  exponent := some (decide (leading < 0), digitsPadded width leading.natAbs)

theorem spells_ofSmall (hdigits : AllDigits digits) (zeros : Nat) :
    (ofSmall negative digits zeros).Spells negative digits (Int.negSucc zeros) := by
  refine spells_of_zeros ⟨List.cons_ne_nil _ _, allDigits_replicate_zero 1, ?_, by simp [ofSmall]⟩ 0
    ?_ ?_
  · intro cs hcs
    obtain rfl := Option.some.inj hcs
    exact (allDigits_replicate_zero zeros).append hdigits
  · rw [coefficient_numeral, Nat.pow_zero, Nat.mul_one]
    have hzeros : ['0'] ++ (List.replicate zeros '0' ++ digits)
        = List.replicate (zeros + 1) '0' ++ digits := rfl
    show Nat.ofDigitChars 10 (['0'] ++ (List.replicate zeros '0' ++ digits)) 0 = _
    rw [hzeros, ofDigitChars_zeros_append]
  · rw [scale_numeral]
    show (0 : Int) - (List.replicate zeros '0' ++ digits).length + (0 : Nat) = _
    rw [List.length_append, List.length_replicate]
    omega

theorem spells_ofModerate (hdigits : AllDigits digits) (hne : digits ≠ []) (leading : Nat) :
    (ofModerate negative digits leading).Spells negative digits leading := by
  have hlength : 0 < digits.length := List.length_pos_iff.2 hne
  have hwhole : AllDigits
      (digits.take (leading + 1) ++ List.replicate (leading + 1 - digits.length) '0') := by
    refine AllDigits.append (fun c hc => hdigits c (List.mem_of_mem_take hc)) ?_
    exact allDigits_replicate_zero _
  have hwhole_ne : digits.take (leading + 1) ≠ [] := by
    intro h
    rcases List.take_eq_nil_iff.1 h with h | h
    · omega
    · exact hne h
  -- by whether a digit is left for the places behind the point
  by_cases hdrop : digits.drop (leading + 1) = []
  · -- all digits stand in front of the point, with zeros behind them
    have hle : digits.length ≤ leading + 1 := List.drop_eq_nil_iff.1 hdrop
    have hfraction : (ofModerate negative digits leading).fraction = some ['0'] := by
      rw [ofModerate, hdrop]
      rfl
    refine spells_of_zeros ⟨List.append_ne_nil_of_left_ne_nil hwhole_ne _, hwhole, ?_,
      by simp [ofModerate]⟩ (leading + 1 - digits.length + 1) ?_ ?_
    · intro cs hcs
      rw [hfraction] at hcs
      obtain rfl := Option.some.inj hcs
      exact allDigits_replicate_zero 1
    · rw [coefficient_numeral, hfraction]
      show Nat.ofDigitChars 10 (digits.take (leading + 1)
        ++ List.replicate (leading + 1 - digits.length) '0' ++ List.replicate 1 '0') 0 = _
      rw [List.take_of_length_le hle, List.append_assoc, List.replicate_append_replicate,
        ofDigitChars_append_zeros]
    · rw [scale_numeral, hfraction]
      show (0 : Int) - 1 + _ = _
      omega
  -- the digits go on behind the point, and no zeros are filled in
  · have hlt : leading + 1 < digits.length := by
      rw [List.drop_eq_nil_iff] at hdrop
      omega
    have hfraction : (ofModerate negative digits leading).fraction
        = some (digits.drop (leading + 1)) := by
      rw [ofModerate]
      exact congrArg some (if_neg (mt List.isEmpty_iff.1 hdrop))
    refine spells_of_zeros ⟨List.append_ne_nil_of_left_ne_nil hwhole_ne _, hwhole, ?_,
      by simp [ofModerate]⟩ 0 ?_ ?_
    · intro cs hcs
      rw [hfraction] at hcs
      obtain rfl := Option.some.inj hcs
      exact fun c hc => hdigits c (List.mem_of_mem_drop hc)
    · rw [coefficient_numeral, hfraction, Nat.pow_zero, Nat.mul_one]
      show Nat.ofDigitChars 10 (digits.take (leading + 1)
        ++ List.replicate (leading + 1 - digits.length) '0' ++ digits.drop (leading + 1)) 0 = _
      rw [Nat.sub_eq_zero_of_le (Nat.le_of_lt hlt), List.replicate_zero, List.append_nil,
        List.take_append_drop]
    · rw [scale_numeral, hfraction]
      show (0 : Int) - (digits.drop (leading + 1)).length + (0 : Nat) = _
      rw [List.length_drop]
      omega

theorem spells_ofExtreme {digit : Char} {others : List Char}
    (hdigits : AllDigits (digit :: others)) (width : Nat) (leading : Int) :
    (ofExtreme negative digit others width leading).Spells negative (digit :: others) leading := by
  -- a single digit has no fraction, which counts for none of its digits
  have hfraction : ((ofExtreme negative digit others width leading).fraction).getD [] = others := by
    rcases others with - | ⟨d, ds⟩ <;> rfl
  -- the exponent is written as a sign and a magnitude, and read back from these
  have hpower : power (ofExtreme negative digit others width leading).exponent = leading := by
    show (if decide (leading < 0) then -(digitsValue (digitsOf (digitsPadded width _)) : Int)
      else digitsValue (digitsOf (digitsPadded width _))) = leading
    rw [digitsValue_digitsOf, ofDigitChars_digitsPadded]
    by_cases h : leading < 0
    · rw [decide_eq_true h, if_pos rfl]
      omega
    · rw [decide_eq_false h, if_neg Bool.false_ne_true]
      omega
  refine spells_of_zeros ⟨List.cons_ne_nil _ _, ?_, ?_, ?_⟩ 0 ?_ ?_
  · intro c hc
    obtain rfl := List.mem_singleton.1 hc
    exact hdigits _ List.mem_cons_self
  · intro cs hcs c hc
    have hothers : cs = others := by
      rw [← hfraction, Option.mem_def.1 hcs]
      rfl
    rw [hothers] at hc
    exact hdigits c (List.mem_cons_of_mem _ hc)
  · intro p hp
    obtain rfl := Option.some.inj hp
    exact ⟨digitsPadded_ne_nil _ _, allDigits_digitsPadded _ _⟩
  · rw [coefficient_numeral, hfraction, Nat.pow_zero, Nat.mul_one]
    rfl
  · rw [scale_numeral, hfraction, hpower, List.length_cons]
    omega

end Spelling

/-! ### Written decimals -/

/-- **Every layout spells the decimal it is given**, with or without a sign. -/
theorem Layout.exists_spelling_write (layout : Layout) (negative : Bool) (d : Decimal) :
    ∃ s : Spelling, s.WellFormed ∧ s.chars = Spelling.signed negative ++ layout.write d ∧
      s.numeral.toBinary64 = .ofDecimal negative d.digits d.exponent := by
  obtain ⟨zeros, hzeros⟩ := exists_eq_dropTrailingZeros_append (Nat.toDigits 10 d.digits)
  have hall : AllDigits (Nat.toDigits 10 d.digits) := allDigits_toDigits d.digits
  have hvalue : Nat.ofDigitChars 10 (Nat.toDigits 10 d.digits) 0 = d.digits :=
    Nat.ofDigitChars_ten_toDigits
  have hne : dropTrailingZeros (Nat.toDigits 10 d.digits) ≠ [] :=
    dropTrailingZeros_ne_nil Nat.toDigits_ne_nil
  rw [Layout.write]
  dsimp only
  generalize dropTrailingZeros (Nat.toDigits 10 d.digits) = digits at hzeros hne ⊢
  generalize Nat.toDigits 10 d.digits = all at hzeros hall hvalue ⊢
  subst hzeros
  have hdigits : AllDigits digits := fun c hc => hall c (List.mem_append_left _ hc)
  rw [ofDigitChars_append_zeros] at hvalue
  generalize hleading : ((digits ++ List.replicate zeros '0').length : Int) + d.exponent - 1
    = leading
  rw [List.length_append, List.length_replicate] at hleading
  -- whatever the form, the zeros that were dropped are in the power of the first digit
  suffices h : ∃ s : Spelling, s.Spells negative digits leading ∧ s.chars = _ by
    obtain ⟨s, hs, hchars⟩ := h
    refine ⟨s, hs.wellFormed, hchars, ?_⟩
    rw [hs.toBinary64, ← hvalue, Binary64.ofDecimal_mul_pow]
    congr 1
    omega
  split
  · rcases leading with leading | leading
    · refine ⟨_, Spelling.spells_ofModerate negative hdigits hne leading, ?_⟩
      simp [Spelling.chars, Spelling.ofModerate, Spelling.pointed, Spelling.powered]
    · refine ⟨_, Spelling.spells_ofSmall negative hdigits leading, ?_⟩
      simp [Spelling.chars, Spelling.ofSmall, Spelling.pointed, Spelling.powered]
  · obtain ⟨digit, others, rfl⟩ := List.exists_cons_of_ne_nil hne
    refine ⟨_, Spelling.spells_ofExtreme negative hdigits layout.exponentDigits leading, ?_⟩
    rcases others with - | ⟨second, others⟩
    · simp [Spelling.chars, Spelling.ofExtreme, Spelling.pointed, Spelling.powered]
    · simp [Spelling.chars, Spelling.ofExtreme, Spelling.pointed, Spelling.powered]

/-! ### Written numbers -/

/-- The digits of a whole number, with its sign. -/
def Spelling.ofWhole (n : Int) : Spelling where
  negative := n < 0
  whole := Nat.toDigits 10 n.natAbs
  fraction := none
  exponent := none

theorem Spelling.wellFormed_ofWhole (n : Int) : (ofWhole n).WellFormed where
  whole_ne_nil := Nat.toDigits_ne_nil
  whole_digits := allDigits_toDigits _
  fraction_digits := fun _ hcs => nomatch hcs
  exponent_digits := fun _ hp => nomatch hp

theorem integerText_eq_ofWhole (n : Int) :
    integerText n = String.ofList (Spelling.ofWhole n).chars := by
  refine congrArg String.ofList ?_
  simp only [Spelling.ofWhole, Spelling.chars, Spelling.signed, Spelling.pointed,
    Spelling.powered, List.append_nil, decide_eq_true_eq]

/-- There is no white space in a whole number. -/
theorem isBlank_of_mem_integerText {n : Int} {c : Char} (h : c ∈ (integerText n).toList) :
    isBlank c = false := by
  rw [integerText_eq_ofWhole, String.toList_ofList] at h
  exact Spelling.isBlank_of_mem_chars (Spelling.wellFormed_ofWhole n) h

namespace Binary64

theorem withSign_eq_signed (negative : Bool) (text : List Char) :
    withSign negative text = String.ofList (Spelling.signed negative ++ text) := by
  cases negative <;> rfl

/-- **A finite number in its plain form is read as itself.** -/
theorem readNumber?_plain {negative : Bool} {units : Nat} (h : Representable units)
    (hunits : units ≠ 0) :
    readNumber? (plain (.finite negative units h)) = some (.finite negative units h) := by
  obtain ⟨s, hs, hchars, hvalue⟩ :=
    plainLayout.exists_spelling_write negative (Decimal.shortest units)
  rw [Decimal.ofDecimal_shortest negative h] at hvalue
  rw [plain, if_neg hunits, withSign_eq_signed, ← hchars, Spelling.readNumber?_chars hs, hvalue]
  rw [hvalue]
  rfl

/-- The numeral of a whole number has the number nearest to it. -/
theorem toBinary64_ofWhole (n : Int) : (Spelling.ofWhole n).numeral.toBinary64 = ofInt n := by
  have hcoefficient : (Spelling.ofWhole n).numeral.coefficient = n.natAbs := by
    rw [Spelling.coefficient_numeral]
    show Nat.ofDigitChars 10 (Nat.toDigits 10 n.natAbs ++ []) 0 = n.natAbs
    rw [List.append_nil, Nat.ofDigitChars_ten_toDigits]
  show ofDecimal (decide (n < 0)) (Spelling.ofWhole n).numeral.coefficient 0 = ofInt n
  rw [hcoefficient, ofDecimal_eq_ofUnits, ofInt, ofQuotient]
  exact congrArg₂ (ofUnits _) (congrArg (· * unitsPerOne) (Nat.mul_one _)) rfl

/-- The text of a whole number is read as the nearest number, if that is
finite. -/
theorem readNumber?_integerText {n : Int} (h : (ofInt n).isFinite = true) :
    readNumber? (integerText n) = some (ofInt n) := by
  have hvalue := toBinary64_ofWhole n
  rw [integerText_eq_ofWhole, Spelling.readNumber?_chars (Spelling.wellFormed_ofWhole n), hvalue]
  rw [hvalue]
  exact h

/-- A whole number in range has a finite value. -/
theorem isFinite_ofInt {n : Int} (h : n.natAbs < integerBound) : (ofInt n).isFinite = true := by
  have hbound : integerBound * unitsPerOne + halfLastStep = unitsBound := by decide +kernel
  rw [ofInt, ofQuotient]
  refine isFinite_ofUnits _ ?_
  rw [← hbound]
  exact Nat.add_lt_add_right (Nat.mul_lt_mul_of_pos_right h unitsPerOne_pos) _

end Binary64

end TableQuery
