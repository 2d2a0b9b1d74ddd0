/-
TableQuery/Proofs/Cell/Reading.lean

The number of a cell, read off the text of the cell.

A cell can hold a number as a whole number, as a binary64 number or as text,
and nothing after `Cell.number?` may depend on which of them it is.  That
holds because every form of writing a number is read back
(`Proofs/Number/Notation.lean`), with two reservations: the text of a zero
does not show its sign, so numbers are compared by `Binary64.Equal`, and the
text of an infinity is no numeral, so infinite numbers are left out.

Main result: `Cell.agree_readNumber?_plainText`.
-/
import TableQuery.Cell
import TableQuery.Proofs.Number.Equality
import TableQuery.Proofs.Number.Notation

namespace TableQuery

/-! ### Numbers that are read -/

/-- Only finite numbers are read. -/
theorem isFinite_of_readNumber? {s : String} {x : Binary64} (h : readNumber? s = some x) :
    x.isFinite = true := by
  rw [readNumber?] at h
  split at h
  · cases h
  · split at h
    · next hfinite => exact Option.some.inj h ▸ hfinite
    · cases h

namespace Binary64

/-- Numbers of two cells: neither has one, or both have and they are equal. -/
abbrev Agree (x? y? : Option Binary64) : Prop := Option.Rel Equal x? y?

theorem Agree.symm {x? y? : Option Binary64} (h : Agree x? y?) : Agree y? x? := by
  cases h with
  | none => exact .none
  | some h => exact .some h.symm

theorem Agree.trans {x? y? z? : Option Binary64} (hxy : Agree x? y?) (hyz : Agree y? z?) :
    Agree x? z? := by
  cases hxy with
  | none => exact hyz
  | some hxy =>
    cases hyz with
    | some hyz => exact .some (hxy.trans hyz)

theorem agree_refl_of_isFinite {x? : Option Binary64} (h : ∀ x ∈ x?, x.isFinite = true) :
    Agree x? x? := by
  cases x? with
  | none => exact .none
  | some x => exact .some (equal_refl (isNaN_of_isFinite (h x rfl)))

/-- The whole number that a whole value is has the same value. -/
theorem ofInt_signed_equal (negative : Bool) {units : Nat} (h : Representable units)
    (hwhole : units % unitsPerOne = 0) :
    (ofInt (signed negative (units / unitsPerOne))).Equal (.finite negative units h) := by
  have hunits : units / unitsPerOne * unitsPerOne = units :=
    Nat.div_mul_cancel (Nat.dvd_of_mod_eq_zero hwhole)
  have hround : roundUnits units 1 = units := by
    have hone := roundUnits_of_representable h Nat.one_pos
    rwa [Nat.mul_one] at hone
  have hof : ofInt (signed negative (units / unitsPerOne))
      = .finite (decide (signed negative (units / unitsPerOne) < 0)) units h := by
    rw [ofInt, ofQuotient, natAbs_signed, hunits]
    exact ofUnits_of_roundUnits_eq _ h hround
  -- a zero has lost its sign on the way through the whole number
  rw [hof]
  refine .finite (signed_sign negative fun hzero => ?_)
  rw [← hunits, hzero, Nat.zero_mul]

/-- **A finite number in its brief form is read as an equal number.** -/
theorem agree_readNumber?_brief {x : Binary64} (h : x.isFinite = true) :
    Agree (some x) (readNumber? x.brief) := by
  obtain ⟨negative, units, hunits, rfl⟩ := exists_of_isFinite h
  by_cases hwhole : units % unitsPerOne = 0
  · -- written as the whole number that it is, without a point
    have hequal := ofInt_signed_equal negative hunits hwhole
    have hbrief : (finite negative units hunits).brief
        = integerText (signed negative (units / unitsPerOne)) := by
      rw [brief, isWhole, decide_eq_true hwhole]
      rfl
    rw [hbrief, readNumber?_integerText (hequal.isFinite rfl)]
    exact .some hequal.symm
  · -- written with as many digits as tell it from every other number
    have hbrief : (finite negative units hunits).brief = (finite negative units hunits).plain := by
      rw [brief, isWhole, decide_eq_false hwhole]
    have hne : units ≠ 0 := by
      rintro rfl
      exact hwhole (Nat.zero_mod _)
    rw [hbrief, readNumber?_plain hunits hne]
    exact .some (equal_refl rfl)

end Binary64

/-! ### The number of a cell -/

namespace Cell

/-- Whether a cell holds an infinite number. -/
def isInfinite : Cell → Bool
  | .number (.real (.infinite _) _) => true
  | _ => false

/-- An infinite number is written in letters. -/
theorem cases_of_isInfinite {c : Cell} (h : c.isInfinite = true) :
    (c.number? = some (.infinite false) ∧ c.plainText = "inf") ∨
      (c.number? = some (.infinite true) ∧ c.plainText = "-inf") := by
  cases c with
  | number a =>
    cases a with
    | whole n hn => cases h
    | real x hx =>
      cases x with
      | infinite negative =>
        cases negative
        · exact .inl ⟨rfl, rfl⟩
        · exact .inr ⟨rfl, rfl⟩
      | finite negative units hunits => cases h
      | nan => cases h
  | text s => cases h
  | boolean b => cases h
  | absent => cases h

/-- The text of an infinite number is no numeral. -/
theorem readNumber?_of_isInfinite {c : Cell} (h : c.isInfinite = true) :
    readNumber? c.plainText = none := by
  rcases cases_of_isInfinite h with ⟨-, htext⟩ | ⟨-, htext⟩
  · rw [htext]
    decide
  · rw [htext]
    decide

/-- Whatever number a cell has, it is one. -/
theorem isNaN_of_number? {c : Cell} {x : Binary64} (h : c.number? = some x) :
    x.isNaN = false := by
  cases c with
  | text s => exact Binary64.isNaN_of_isFinite (isFinite_of_readNumber? h)
  | number a =>
    obtain rfl := Option.some.inj h
    cases a with
    | whole n hn => exact Binary64.isNaN_ofInt n
    | real x hx => exact hx
  | boolean b => cases h
  | absent => cases h

/-- **The number of a cell is what its text is read as**, unless the cell holds
an infinite number. -/
theorem agree_readNumber?_plainText {c : Cell} (h : c.isInfinite = false) :
    Binary64.Agree c.number? (readNumber? c.plainText) := by
  -- by what the cell holds: a text is read as it is, a number from its written form
  cases c with
  | text s => exact Binary64.agree_refl_of_isFinite fun x hx => isFinite_of_readNumber? hx
  | number a =>
    cases a with
    | whole n hn =>
      have hfinite := Binary64.isFinite_ofInt hn
      show Binary64.Agree (some (.ofInt n)) (readNumber? (integerText n))
      rw [Binary64.readNumber?_integerText hfinite]
      exact .some (Binary64.equal_refl (Binary64.isNaN_of_isFinite hfinite))
    | real x hx =>
      refine Binary64.agree_readNumber?_brief ?_
      cases x with
      | finite n u hu => rfl
      | infinite n => cases h
      | nan => cases hx
  | boolean b =>
    -- the words for truth values are no numerals
    have hnone : readNumber? (plainText (.boolean b)) = none := by
      cases b <;> decide
    rw [hnone]
    exact .none
  | absent =>
    have hnone : readNumber? (plainText .absent) = none := by decide
    rw [hnone]
    exact .none

/-- The number of a cell is finite, unless the cell holds an infinite one. -/
theorem isFinite_of_number? {c : Cell} (h : c.isInfinite = false) {x : Binary64}
    (hx : c.number? = some x) : x.isFinite = true := by
  have hread := agree_readNumber?_plainText h
  rw [hx] at hread
  generalize hy : readNumber? c.plainText = y? at hread
  cases hread with
  | some hequal => exact hequal.isFinite (isFinite_of_readNumber? hy)

/-! ### Cells with the same text -/

/-- Two cells with the same text, neither of which is an infinite number. -/
structure Alike (c d : Cell) : Prop where
  plainText : c.plainText = d.plainText
  left : c.isInfinite = false
  right : d.isInfinite = false

instance (c d : Cell) : Decidable (c.Alike d) :=
  decidable_of_iff (c.plainText = d.plainText ∧ c.isInfinite = false ∧ d.isInfinite = false)
    ⟨fun h => ⟨h.1, h.2.1, h.2.2⟩, fun h => ⟨h.plainText, h.left, h.right⟩⟩

variable {c d : Cell}

/-- Cells that are alike have equal numbers, or neither has one. -/
theorem Alike.number? (h : c.Alike d) : Binary64.Agree c.number? d.number? := by
  have hc := agree_readNumber?_plainText h.left
  rw [h.plainText] at hc
  exact hc.trans (agree_readNumber?_plainText h.right).symm

/-- **A cell is empty exactly if its text is.** -/
theorem isEmpty_eq_plainText (c : Cell) : c.isEmpty = decide (c.plainText = "") := by
  cases c with
  | text s => rfl
  | number a =>
    refine (decide_eq_false fun hempty => ?_).symm
    rcases h : (number a).isInfinite with - | -
    · -- the text of a finite number is a numeral, which the empty text is not
      have hread := agree_readNumber?_plainText h
      rw [hempty, show readNumber? "" = none by decide] at hread
      cases hread
    · rcases cases_of_isInfinite h with ⟨-, htext⟩ | ⟨-, htext⟩
      · exact absurd (htext.symm.trans hempty) (by decide)
      · exact absurd (htext.symm.trans hempty) (by decide)
  | boolean b => cases b <;> rfl
  | absent => rfl

theorem Alike.isEmpty (h : c.Alike d) : c.isEmpty = d.isEmpty := by
  rw [isEmpty_eq_plainText, isEmpty_eq_plainText, h.plainText]

/-- **The numbers of two cells with the same text are equal**, infinite ones
too. -/
theorem equal_of_plainText_eq {x y : Binary64} (hx : c.number? = some x) (hy : d.number? = some y)
    (h : c.plainText = d.plainText) : x.Equal y := by
  -- by whether the two cells hold an infinity
  rcases hc : c.isInfinite with - | -
  · rcases hd : d.isInfinite with - | -
    · have hagree := Alike.number? ⟨h, hc, hd⟩
      rw [hx, hy] at hagree
      cases hagree with
      | some hequal => exact hequal
    · -- the text of an infinity is no numeral, that of a finite number is
      have hread := agree_readNumber?_plainText hc
      rw [hx, h, readNumber?_of_isInfinite hd] at hread
      cases hread
  · rcases hd : d.isInfinite with - | -
    · have hread := agree_readNumber?_plainText hd
      rw [hy, ← h, readNumber?_of_isInfinite hc] at hread
      cases hread
    -- the texts of two infinities show their signs
    · rcases cases_of_isInfinite hc with ⟨hnumber, htext⟩ | ⟨hnumber, htext⟩
      · rcases cases_of_isInfinite hd with ⟨hnumber', htext'⟩ | ⟨hnumber', htext'⟩
        · obtain rfl := Option.some.inj (hx.symm.trans hnumber)
          obtain rfl := Option.some.inj (hy.symm.trans hnumber')
          exact .infinite false
        · exact absurd (htext.symm.trans (h.trans htext')) (by decide)
      · rcases cases_of_isInfinite hd with ⟨hnumber', htext'⟩ | ⟨hnumber', htext'⟩
        · exact absurd (htext.symm.trans (h.trans htext')) (by decide)
        · obtain rfl := Option.some.inj (hx.symm.trans hnumber)
          obtain rfl := Option.some.inj (hy.symm.trans hnumber')
          exact .infinite true

/-- Two keys with the same text and equal numbers, or without numbers. -/
structure Key.Alike (a b : Key) : Prop where
  number? : Binary64.Agree a.number? b.number?
  text : a.text = b.text

theorem Alike.key (h : c.Alike d) : c.key.Alike d.key := ⟨h.number?, h.plainText⟩

/-- **A comparison does not tell keys apart that are alike.** -/
theorem Key.Alike.order_congr {a a' b b' : Key} (ha : a.Alike a') (hb : b.Alike b') :
    Key.order a b = Key.order a' b' := by
  obtain ⟨x?, s⟩ := a
  obtain ⟨x'?, s'⟩ := a'
  obtain ⟨y?, t⟩ := b
  obtain ⟨y'?, t'⟩ := b'
  obtain ⟨hx?, rfl : s = s'⟩ := ha
  obtain ⟨hy?, rfl : t = t'⟩ := hb
  -- unless both keys have numbers the texts are compared, and those are equal
  cases hx? with
  | none => rfl
  | some hx =>
    cases hy? with
    | none => rfl
    | some hy => exact hx.order_congr hy

end Cell

end TableQuery
