/-
TableQuery/Proofs/Number/Numeral.lean

Reading what is spelled in plain digits.

A numeral in a cell may use the digits of any script and leave out the digits
on one side of the point.  The program itself writes numbers in one way only:
a minus sign or none, the digits 0 to 9, perhaps a point with digits on both
sides, perhaps an exponent with its sign.  `Spelling` is such a written number
as its parts, and one way to write the numeral of its parts
(`written_chars`).

Main result: a well-formed spelling is read as the numeral of its parts
(`read?_chars`), also from a cell (`readNumber?_chars`), where it must not
overflow and where the white space around it would be removed.
-/
import Mathlib.Data.List.TakeWhile
import TableQuery.Proofs.Number.Grammar

namespace TableQuery

open Text

/-! ### The digits 0 to 9 -/

/-- All characters are digits from 0 to 9. -/
def AllDigits (cs : List Char) : Prop := ∀ c ∈ cs, c.isDigit = true

/-- The values of digits from 0 to 9. -/
def digitsOf (cs : List Char) : List Nat := cs.map fun c => c.toNat - '0'.toNat

theorem AllDigits.append {cs ds : List Char} (hc : AllDigits cs) (hd : AllDigits ds) :
    AllDigits (cs ++ ds) := by
  intro c h
  rcases List.mem_append.1 h with h | h
  · exact hc c h
  · exact hd c h

theorem allDigits_replicate_zero (n : Nat) : AllDigits (List.replicate n '0') := by
  intro c h
  rw [List.eq_of_mem_replicate h]
  decide

theorem allDigits_toDigits (n : Nat) : AllDigits (Nat.toDigits 10 n) :=
  fun _ h => Nat.isDigit_of_mem_toDigits (by decide) (by decide) h

/-- A digit from 0 to 9 is one of the digits of all scripts, with its value. -/
theorem digitValue?_of_isDigit {c : Char} (h : c.isDigit = true) :
    digitValue? c = some (c.toNat - '0'.toNat) := by
  obtain ⟨hlow, hhigh⟩ : 48 ≤ c.toNat ∧ c.toNat ≤ 57 := by
    rw [Char.isDigit, Bool.and_eq_true, decide_eq_true_eq, decide_eq_true_eq] at h
    exact h
  rw [digitValue?, digitZeros, digitAfter?, if_neg (by omega), if_pos (by omega)]
  rfl

/-- No digit from 0 to 9 is white space. -/
theorem isBlank_of_isDigit {c : Char} (h : c.isDigit = true) : isBlank c = false := by
  obtain ⟨hlow, hhigh⟩ : 48 ≤ c.toNat ∧ c.toNat ≤ 57 := by
    rw [Char.isDigit, Bool.and_eq_true, decide_eq_true_eq, decide_eq_true_eq] at h
    exact h
  rw [isBlank, blankRanges, inRanges, if_neg (by omega), if_neg (by omega), inRanges,
    if_neg (by omega), if_neg (by omega), inRanges, if_pos (by omega)]

theorem writesDigits_digitsOf {cs : List Char} (hcs : AllDigits cs) :
    WritesDigits (digitsOf cs) cs := by
  rw [WritesDigits, digitsOf, List.forall₂_map_left_iff, List.forall₂_same]
  exact fun c hc => digitValue?_of_isDigit (hcs c hc)

/-- The value of digits, as the library counts it. -/
theorem digitsValue_digitsOf (cs : List Char) :
    digitsValue (digitsOf cs) = Nat.ofDigitChars 10 cs 0 := by
  rw [digitsValue, digitsOf, List.foldl_map, Nat.ofDigitChars_eq_foldl]

@[simp] theorem digitsOf_append (cs ds : List Char) :
    digitsOf (cs ++ ds) = digitsOf cs ++ digitsOf ds := List.map_append

@[simp] theorem length_digitsOf (cs : List Char) : (digitsOf cs).length = cs.length :=
  List.length_map _

theorem digitsOf_ne_nil {cs : List Char} (h : cs ≠ []) : digitsOf cs ≠ [] :=
  mt List.map_eq_nil_iff.1 h

/-! ### Spellings -/

/-- A written number as its parts. -/
structure Spelling where
  negative : Bool
  whole : List Char
  /-- The digits behind the point, if there is one. -/
  fraction : Option (List Char)
  /-- The sign and the digits of the exponent, if there is one. -/
  exponent : Option (Bool × List Char)

namespace Spelling

/-- The point with what follows it. -/
def pointed : Option (List Char) → List Char
  | none => []
  | some cs => '.' :: cs

/-- The exponent with its letter and sign. -/
def powered : Option (Bool × List Char) → List Char
  | none => []
  | some (negative, cs) => 'e' :: (if negative then '-' else '+') :: cs

/-- The minus sign, if there is one. -/
def signed (negative : Bool) : List Char := if negative then ['-'] else []

/-- The characters of a spelling. -/
def chars (s : Spelling) : List Char :=
  signed s.negative ++ (s.whole ++ (pointed s.fraction ++ powered s.exponent))

/-- The value of an exponent. -/
def power : Option (Bool × List Char) → Int
  | none => 0
  | some (negative, cs) => if negative then -(digitsValue (digitsOf cs) : Int)
    else digitsValue (digitsOf cs)

/-- The numeral that is spelled. -/
def numeral (s : Spelling) : Numeral where
  negative := s.negative
  whole := digitsOf s.whole
  fraction := digitsOf (s.fraction.getD [])
  exponent := power s.exponent

/-- There are digits in front of the point and in the exponent, and no other
characters than digits. -/
structure WellFormed (s : Spelling) : Prop where
  whole_ne_nil : s.whole ≠ []
  whole_digits : AllDigits s.whole
  fraction_digits : ∀ cs ∈ s.fraction, AllDigits cs
  exponent_digits : ∀ p ∈ s.exponent, p.2 ≠ [] ∧ AllDigits p.2

variable {s : Spelling}

/-! ### Reading a spelling -/

theorem writesSign_signed (negative : Bool) : WritesSign negative (signed negative) := by
  cases negative with
  | true => exact .minus
  | false => exact .bare

theorem writesPointed_pointed {whole : List Char} {fraction : Option (List Char)}
    (hne : whole ≠ []) (hwhole : AllDigits whole) (hfraction : ∀ cs ∈ fraction, AllDigits cs) :
    WritesPointed (digitsOf whole) (digitsOf (fraction.getD [])) (whole ++ pointed fraction) := by
  have hws := writesDigits_digitsOf hwhole
  rcases fraction with - | fraction
  · rw [pointed, List.append_nil]
    exact .whole (digitsOf_ne_nil hne) hws
  · exact .pointed (digitsOf_ne_nil hne) hws (writesDigits_digitsOf (hfraction _ rfl))

theorem writesExponent_powered {exponent : Option (Bool × List Char)}
    (h : ∀ p ∈ exponent, p.2 ≠ [] ∧ AllDigits p.2) :
    WritesExponent (power exponent) (powered exponent) := by
  rcases exponent with - | ⟨negative, cs⟩
  · exact .bare
  · obtain ⟨hne, hcs⟩ := h _ rfl
    have hsign : WritesSign negative [if negative then '-' else '+'] := by
      cases negative with
      | true => exact .minus
      | false => exact .plus
    exact .powered (.inl rfl) hsign (digitsOf_ne_nil hne) (writesDigits_digitsOf hcs)

/-- A well-formed spelling is a way to write the numeral of its parts. -/
theorem written_chars (h : s.WellFormed) : s.numeral.Written s.chars := by
  rw [chars, ← List.append_assoc s.whole]
  exact .of (writesSign_signed s.negative)
    (writesPointed_pointed h.whole_ne_nil h.whole_digits h.fraction_digits)
    (writesExponent_powered h.exponent_digits)

/-- **A well-formed spelling is read as the numeral of its parts.** -/
theorem read?_chars (h : s.WellFormed) : Numeral.read? s.chars = some s.numeral :=
  Numeral.read?_eq_some_iff.2 (written_chars h)

/-! ### The characters of a spelling -/

/-- The characters of a spelling are digits, signs, the point and the letter of
the exponent. -/
theorem mem_chars (h : s.WellFormed) {c : Char} (hc : c ∈ s.chars) :
    c.isDigit = true ∨ c ∈ ['-', '+', '.', 'e'] := by
  obtain ⟨negative, whole, fraction, exponent⟩ := s
  obtain ⟨-, hwhole, hfraction, hexponent⟩ := h
  rw [chars, List.mem_append, List.mem_append, List.mem_append] at hc
  -- the four parts of a numeral: sign, whole part, fraction and exponent
  rcases hc with hc | hc | hc | hc
  · cases negative with
    | true =>
      obtain rfl := List.mem_singleton.1 hc
      exact .inr (by decide)
    | false => cases hc
  · exact .inl (hwhole c hc)
  · rcases fraction with - | fraction
    · cases hc
    · rcases List.mem_cons.1 hc with rfl | hc
      · exact .inr (by decide)
      · exact .inl (hfraction _ rfl c hc)
  · rcases exponent with - | ⟨sign, cs⟩
    · cases hc
    · rcases List.mem_cons.1 hc with rfl | hc
      · exact .inr (by decide)
      · rcases List.mem_cons.1 hc with rfl | hc
        · exact .inr (by cases sign <;> decide)
        · exact .inl ((hexponent _ rfl).2 c hc)

theorem isBlank_of_mem_chars (h : s.WellFormed) {c : Char} (hc : c ∈ s.chars) :
    isBlank c = false := by
  have hmarks : (['-', '+', '.', 'e'].any isBlank) = false := by decide
  rcases mem_chars h hc with hdigit | hmark
  · exact isBlank_of_isDigit hdigit
  · exact Bool.eq_false_iff.2 (List.any_eq_false.1 hmarks c hmark)

/-! ### Reading a spelling from a cell -/

/-- A text without white space is not stripped of anything. -/
theorem strip_of_forall_not_isBlank {cs : List Char} (h : ∀ c ∈ cs, isBlank c = false) :
    strip cs = cs := by
  have hdrop : ∀ ds : List Char, (∀ c ∈ ds, isBlank c = false) → ds.dropWhile isBlank = ds := by
    intro ds hds
    rcases ds with - | ⟨d, ds⟩
    · rfl
    · exact List.dropWhile_cons_of_neg (by rw [hds d List.mem_cons_self]; decide)
  rw [strip, hdrop cs h, hdrop cs.reverse fun c hc => h c (List.mem_reverse.1 hc),
    List.reverse_reverse]

/-- A cell with a spelling holds the number of its numeral, if that does not
overflow. -/
theorem readNumber?_chars (h : s.WellFormed) (hfinite : s.numeral.toBinary64.isFinite = true) :
    readNumber? (String.ofList s.chars) = some s.numeral.toBinary64 := by
  have hstrip : strip (String.ofList s.chars).toList = s.chars := by
    rw [String.toList_ofList]
    exact strip_of_forall_not_isBlank fun c hc => isBlank_of_mem_chars h hc
  rw [readNumber?, hstrip, read?_chars h]
  exact if_pos hfinite

end Spelling

end TableQuery
