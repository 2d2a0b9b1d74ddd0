/-
TableQuery/Proofs/Number/Grammar.lean

Which texts are numerals.

The grammar is given by what is written, part by part: an optional sign,
digits with an optional point among or around them, and an optional exponent
with a sign of its own.  A digit is a decimal digit of any script, so the
relation between characters and digits is `digitValue?`, and everything else
is a fixed character.

Reading goes from left to right and never looks back.  It finds the parts
because what follows a part cannot be taken for more of it: no digit follows
the digits of a part, and no sign follows where the sign was left out.  These
are the conditions of the lemmas on the parts, which are met by the shape of
what comes next.

Main result: `Numeral.read?_eq_some_iff`, a text is read as a numeral exactly
if the numeral is written that way.
-/
import Mathlib.Data.List.Forall2
import TableQuery.Number.Numeral

namespace TableQuery

open Text

/-! ### What is written -/

/-- Digits of any script, each of which has the value that stands in its place. -/
def WritesDigits (ds : List Nat) (cs : List Char) : Prop :=
  List.Forall₂ (fun d c => digitValue? c = some d) ds cs

/-- A sign, or none for what is not negative. -/
inductive WritesSign : Bool → List Char → Prop
  | bare : WritesSign false []
  | plus : WritesSign false ['+']
  | minus : WritesSign true ['-']

/-- Digits before and after a point.  There are some before it, and the point
may be missing if there are none after it, or it comes first and there are some
after it. -/
inductive WritesPointed : List Nat → List Nat → List Char → Prop
  | whole {ws : List Nat} {cs : List Char} :
      ws ≠ [] → WritesDigits ws cs → WritesPointed ws [] cs
  | pointed {ws fs : List Nat} {cs ds : List Char} :
      ws ≠ [] → WritesDigits ws cs → WritesDigits fs ds → WritesPointed ws fs (cs ++ '.' :: ds)
  | fraction {fs : List Nat} {ds : List Char} :
      fs ≠ [] → WritesDigits fs ds → WritesPointed [] fs ('.' :: ds)

/-- An exponent behind its letter, or none for zero. -/
inductive WritesExponent : Int → List Char → Prop
  | bare : WritesExponent 0 []
  | powered {letter : Char} {negative : Bool} {es : List Nat} {sign cs : List Char} :
      letter = 'e' ∨ letter = 'E' → WritesSign negative sign → es ≠ [] → WritesDigits es cs →
        WritesExponent (if negative then -(digitsValue es : Int) else digitsValue es)
          (letter :: (sign ++ cs))

/-- The grammar of numerals. -/
inductive Numeral.Written (n : Numeral) : List Char → Prop
  | of {sign pointed power : List Char} :
      WritesSign n.negative sign → WritesPointed n.whole n.fraction pointed →
      WritesExponent n.exponent power → n.Written (sign ++ (pointed ++ power))

/-! ### Digits -/

/-- No digit stands in front. -/
def NoDigitFirst (cs : List Char) : Prop := ∀ c ∈ cs.head?, digitValue? c = none

theorem noDigitFirst_nil : NoDigitFirst [] := fun _ h => nomatch h

theorem noDigitFirst_cons {c : Char} (h : digitValue? c = none) (cs : List Char) :
    NoDigitFirst (c :: cs) := by
  intro d hd
  obtain rfl := Option.some.inj hd
  exact h

/-- Digits are read up to the first character that is none. -/
theorem readDigits_append {ds : List Nat} {cs rest : List Char} (hcs : WritesDigits ds cs)
    (hrest : NoDigitFirst rest) : readDigits (cs ++ rest) = (ds, rest) := by
  induction hcs with
  | nil =>
    rcases rest with - | ⟨c, rest⟩
    · rfl
    · have hc : digitValue? c = none := hrest c rfl
      simp [readDigits, hc]
  | cons hc _ ih =>
    rw [List.cons_append, readDigits, hc]
    simp only [ih]

/-- What is read as digits is written that way, and no digit follows. -/
theorem exists_of_readDigits {cs rest : List Char} {ds : List Nat}
    (h : readDigits cs = (ds, rest)) :
    ∃ front, cs = front ++ rest ∧ WritesDigits ds front ∧ NoDigitFirst rest := by
  induction cs generalizing ds with
  | nil =>
    obtain ⟨rfl, rfl⟩ := Prod.mk.inj h
    exact ⟨[], rfl, .nil, noDigitFirst_nil⟩
  | cons c cs ih =>
    rw [readDigits] at h
    split at h
    · next d hd =>
      obtain ⟨rfl, rfl⟩ := Prod.mk.inj h
      obtain ⟨front, hfront, hdigits, hrest⟩ := ih rfl
      exact ⟨c :: front, congrArg (c :: ·) hfront, .cons hd hdigits, hrest⟩
    · next hnone =>
      obtain ⟨rfl, rfl⟩ := Prod.mk.inj h
      exact ⟨[], rfl, .nil, noDigitFirst_cons hnone cs⟩

/-! ### Signs -/

/-- No sign stands in front. -/
def NoSignFirst (cs : List Char) : Prop := ∀ c ∈ cs.head?, c ≠ '+' ∧ c ≠ '-'

theorem readSign_append {negative : Bool} {sign rest : List Char} (hsign : WritesSign negative sign)
    (hrest : NoSignFirst rest) : readSign (sign ++ rest) = (negative, rest) := by
  cases hsign with
  | bare =>
    rcases rest with - | ⟨c, rest⟩
    · rfl
    · obtain ⟨hplus, hminus⟩ := hrest c rfl
      simp [readSign, hplus, hminus]
  | plus => rfl
  | minus => rfl

theorem exists_of_readSign {cs rest : List Char} {negative : Bool}
    (h : readSign cs = (negative, rest)) : ∃ sign, cs = sign ++ rest ∧ WritesSign negative sign := by
  unfold readSign at h
  split at h
  · obtain ⟨rfl, rfl⟩ := Prod.mk.inj h
    exact ⟨['+'], rfl, .plus⟩
  · obtain ⟨rfl, rfl⟩ := Prod.mk.inj h
    exact ⟨['-'], rfl, .minus⟩
  · obtain ⟨rfl, rfl⟩ := Prod.mk.inj h
    exact ⟨[], rfl, .bare⟩

/-- A digit is no sign. -/
theorem noSignFirst_of_digits {ds : List Nat} {cs : List Char} (hds : ds ≠ [])
    (hcs : WritesDigits ds cs) (rest : List Char) : NoSignFirst (cs ++ rest) := by
  cases hcs with
  | nil => exact absurd rfl hds
  | @cons d c ds cs hc _ =>
    intro e he
    obtain rfl : c = e := Option.some.inj he
    have hplus : digitValue? '+' = none := by decide
    have hminus : digitValue? '-' = none := by decide
    constructor
    · rintro rfl
      rw [hplus] at hc
      cases hc
    · rintro rfl
      rw [hminus] at hc
      cases hc

/-! ### The point -/

/-- The digits behind a point, if it comes first. -/
def readFraction : List Char → List Nat × List Char
  | '.' :: cs => readDigits cs
  | cs => ([], cs)

/-- The digits before and after a point, and what follows. -/
def readPointed (cs : List Char) : List Nat × List Nat × List Char :=
  ((readDigits cs).1, (readFraction (readDigits cs).2).1, (readFraction (readDigits cs).2).2)

theorem readFraction_of_ne {cs : List Char} (h : '.' ∉ cs.head?) : readFraction cs = ([], cs) := by
  rcases cs with - | ⟨c, cs⟩
  · rfl
  · have hc : c ≠ '.' := by
      rintro rfl
      exact h rfl
    simp [readFraction, hc]

theorem readPointed_append {ws fs : List Nat} {cs rest : List Char} (hcs : WritesPointed ws fs cs)
    (hdigit : NoDigitFirst rest) (hpoint : '.' ∉ rest.head?) :
    readPointed (cs ++ rest) = (ws, fs, rest) := by
  have hdot (ds : List Char) : NoDigitFirst ('.' :: ds) := noDigitFirst_cons (by decide) ds
  cases hcs with
  | whole _ hws =>
    rw [readPointed, readDigits_append hws hdigit, readFraction_of_ne hpoint]
  | @pointed _ _ cs ds _ hws hfs =>
    rw [readPointed, List.append_assoc, List.cons_append, readDigits_append hws (hdot _)]
    simp only [readFraction, readDigits_append hfs hdigit]
  | @fraction _ ds _ hfs =>
    have hnone : readDigits ([] ++ '.' :: (ds ++ rest)) = ([], '.' :: (ds ++ rest)) :=
      readDigits_append .nil (hdot _)
    rw [List.nil_append] at hnone
    rw [readPointed, List.cons_append, hnone]
    simp only [readFraction, readDigits_append hfs hdigit]

/-- What is read around a point is written that way, if there is a digit in it. -/
theorem exists_of_readPointed {cs rest : List Char} {ws fs : List Nat}
    (h : readPointed cs = (ws, fs, rest)) (hsome : ¬ (ws = [] ∧ fs = [])) :
    ∃ front, cs = front ++ rest ∧ WritesPointed ws fs front := by
  rw [readPointed] at h
  rcases hwhole : readDigits cs with ⟨ws', tail⟩
  rw [hwhole, Prod.mk.injEq, Prod.mk.injEq] at h
  obtain ⟨rfl, hfs, hrest⟩ := h
  obtain ⟨front, rfl, hws, -⟩ := exists_of_readDigits hwhole
  -- by whether a point follows on the whole part
  by_cases hpoint : '.' ∈ tail.head?
  · obtain ⟨after, rfl⟩ : ∃ after, tail = '.' :: after := List.head?_eq_some_iff.1 hpoint
    obtain ⟨middle, hmiddle, hwritten, -⟩ := exists_of_readDigits (Prod.ext hfs hrest)
    refine ⟨front ++ '.' :: middle, ?_, ?_⟩
    · rw [List.append_assoc, List.cons_append, hmiddle]
    -- a point with nothing in front needs a digit behind it
    · by_cases hnil : ws' = []
      · subst hnil
        cases hws
        exact .fraction (fun h => hsome ⟨rfl, h⟩) hwritten
      · exact .pointed hnil hws hwritten
  · rw [readFraction_of_ne hpoint] at hfs hrest
    subst hfs hrest
    exact ⟨front, rfl, .whole (fun h => hsome ⟨h, rfl⟩) hws⟩

theorem WritesPointed.not_both_nil {ws fs : List Nat} {cs : List Char}
    (h : WritesPointed ws fs cs) : ¬ (ws = [] ∧ fs = []) := by
  rintro ⟨hws, hfs⟩
  cases h with
  | whole hne _ => exact hne hws
  | pointed hne _ _ => exact hne hws
  | fraction hne _ => exact hne hfs

/-- A number with a point starts with a digit or the point. -/
theorem noSignFirst_of_pointed {ws fs : List Nat} {cs : List Char} (hcs : WritesPointed ws fs cs)
    (rest : List Char) : NoSignFirst (cs ++ rest) := by
  cases hcs with
  | whole hne hws => exact noSignFirst_of_digits hne hws rest
  | pointed hne hws _ =>
    rw [List.append_assoc]
    exact noSignFirst_of_digits hne hws _
  | fraction _ _ =>
    intro c hc
    obtain rfl := Option.some.inj hc
    decide

/-! ### The exponent -/

/-- **The exponent is read as it is written**, and is the end of the text. -/
theorem readExponent?_eq_some_iff {cs : List Char} {e : Int} :
    readExponent? cs = some e ↔ WritesExponent e cs := by
  constructor
  · intro h
    rcases cs with - | ⟨c, cs⟩
    · obtain rfl := Option.some.inj h
      exact .bare
    · rw [readExponent?] at h
      split at h
      · next hletter =>
        rcases hs : readSign cs with ⟨negative, tail⟩
        rcases hd : readDigits tail with ⟨es, rest⟩
        simp only [hs, hd] at h
        obtain ⟨sign, rfl, hsign⟩ := exists_of_readSign hs
        obtain ⟨digits, rfl, hes, -⟩ := exists_of_readDigits hd
        -- without a digit there is no exponent, and none with more behind the digits
        rcases es with - | ⟨d, ds⟩
        · cases h
        · rcases rest with - | ⟨c, rest⟩
          · obtain rfl := Option.some.inj h
            rw [List.append_nil]
            exact .powered hletter hsign (List.cons_ne_nil d ds) hes
          · cases h
      · cases h
  · intro h
    cases h with
    | bare => rfl
    | @powered letter negative es sign cs hletter hsign hne hes =>
      -- what was written is read in the same order: letter, sign, digits to the end
      have hnone : NoDigitFirst [] := noDigitFirst_nil
      have hdigits := readDigits_append hes hnone
      have hrest := noSignFirst_of_digits hne hes []
      rw [List.append_nil] at hdigits hrest
      obtain ⟨d, ds, rfl⟩ := List.exists_cons_of_ne_nil hne
      rw [readExponent?, if_pos hletter, readSign_append hsign hrest]
      simp only [hdigits]

/-- An exponent starts with its letter, if with anything. -/
theorem WritesExponent.letter_of_mem_head? {e : Int} {cs : List Char} (h : WritesExponent e cs) :
    ∀ c ∈ cs.head?, c = 'e' ∨ c = 'E' := by
  intro c hc
  cases h with
  | bare => cases hc
  | powered hletter _ _ _ =>
    obtain rfl := Option.some.inj hc
    exact hletter

/-! ### Numerals -/

namespace Numeral

theorem read?_eq {cs tail rest : List Char} {negative : Bool} {ws fs : List Nat}
    (hsign : readSign cs = (negative, tail)) (hpointed : readPointed tail = (ws, fs, rest)) :
    read? cs = if ws = [] ∧ fs = [] then none
      else (readExponent? rest).map fun exponent => ⟨negative, ws, fs, exponent⟩ := by
  have hread : read? cs
      = if ((readPointed (readSign cs).2).1.isEmpty && (readPointed (readSign cs).2).2.1.isEmpty)
        then none
        else (readExponent? (readPointed (readSign cs).2).2.2).map fun exponent =>
          ⟨(readSign cs).1, (readPointed (readSign cs).2).1, (readPointed (readSign cs).2).2.1,
            exponent⟩ := rfl
  rw [hread, hsign, hpointed]
  simp only [Bool.and_eq_true, List.isEmpty_iff]

/-- **A text is read as a numeral exactly if it is written as that numeral.** -/
theorem read?_eq_some_iff {cs : List Char} {n : Numeral} : read? cs = some n ↔ n.Written cs := by
  constructor
  · intro h
    rcases hs : readSign cs with ⟨negative, tail⟩
    rcases hp : readPointed tail with ⟨ws, fs, rest⟩
    rw [read?_eq hs hp] at h
    split at h
    · cases h
    · next hsome =>
      obtain ⟨e, he, rfl⟩ := Option.map_eq_some_iff.1 h
      obtain ⟨sign, rfl, hsign⟩ := exists_of_readSign hs
      obtain ⟨pointed, rfl, hpointed⟩ := exists_of_readPointed hp hsome
      exact .of hsign hpointed (readExponent?_eq_some_iff.1 he)
  · intro h
    cases h with
    | @of sign pointed power hsign hpointed hpower =>
      -- the exponent starts with its letter, which is neither a digit nor a point
      have hdigit : NoDigitFirst power := by
        intro c hc
        rcases hpower.letter_of_mem_head? c hc with rfl | rfl <;> decide
      have hpoint : '.' ∉ power.head? := by
        intro h
        rcases hpower.letter_of_mem_head? _ h with h | h <;> exact absurd h (by decide)
      rw [read?_eq (readSign_append hsign (noSignFirst_of_pointed hpointed power))
        (readPointed_append hpointed hdigit hpoint), if_neg hpointed.not_both_nil,
        readExponent?_eq_some_iff.2 hpower]
      rfl

end Numeral

end TableQuery
