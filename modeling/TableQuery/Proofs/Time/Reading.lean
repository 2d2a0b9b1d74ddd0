/-
TableQuery/Proofs/Time/Reading.lean

Written moments are read back.

Every part of a written moment has a fixed number of digits, so that reading
such a part from a text that goes on gives the part and what stands behind it
(`readFixed?_digitsPadded`).  The parts that a date, a time and an offset
carry are in range, and being in range is what makes them fit their digits.

Two parts of the text are left out when they are zero: the fraction of a
second, and the seconds of an offset.  The reader takes their absence for
zero.  The end of the time is found by the first sign or `Z`, and the text of
a time has none.

Main result: a moment is read back from its written form
(`Moment.read_isoText`).  The one hypothesis is consumed at the end, where the
reader takes an offset without a whole second for no offset at all.
-/
import TableQuery.Proofs.Number.Notation
import TableQuery.Time.Moment

namespace TableQuery

/-! ### Digits of a fixed width -/

theorem length_digitsPadded {width n : Nat} (hw : 0 < width) (h : n < 10 ^ width) :
    (digitsPadded width n).length = width := by
  have hle : (Nat.toDigits 10 n).length ≤ width :=
    (Nat.length_toDigits_le_iff (by decide) hw).2 h
  rw [digitsPadded, padZeros, List.length_append, List.length_replicate]
  omega

namespace Clock

theorem asciiDigit?_of_isDigit {c : Char} (h : c.isDigit = true) :
    asciiDigit? c = some (c.toNat - '0'.toNat) := if_pos h

/-- Digits are read as their number, whatever stands behind them. -/
theorem readFixed?_append {digits : List Char} (h : AllDigits digits) (rest : List Char) :
    readFixed? digits.length (digits ++ rest) = some (Nat.ofDigitChars 10 digits 0, rest) := by
  induction digits with
  | nil => rfl
  | cons c cs ih =>
    have hc : asciiDigit? c = some (c.toNat - '0'.toNat) :=
      asciiDigit?_of_isDigit (h c List.mem_cons_self)
    have hcs := ih fun d hd => h d (List.mem_cons_of_mem _ hd)
    -- the first digit counts ten times for each digit behind it
    have hvalue : Nat.ofDigitChars 10 (c :: cs) 0
        = (c.toNat - '0'.toNat) * Nat.pow 10 cs.length + Nat.ofDigitChars 10 cs 0 := by
      rw [Nat.ofDigitChars_cons, Nat.ofDigitChars_eq_ofDigitChars_zero, Nat.mul_zero, Nat.zero_add,
        Nat.mul_comm]
      rfl
    rw [List.cons_append, List.length_cons, readFixed?, hc, hcs, hvalue]
    rfl

/-- A number in its fixed width is read as itself. -/
theorem readFixed?_digitsPadded {width n : Nat} (hw : 0 < width) (h : n < 10 ^ width)
    (rest : List Char) :
    readFixed? width (digitsPadded width n ++ rest) = some (n, rest) := by
  have hread := readFixed?_append (allDigits_digitsPadded width n) rest
  rw [length_digitsPadded hw h, ofDigitChars_digitsPadded] at hread
  exact hread

end Clock

/-! ### Dates -/

namespace Date

theorem of_parts (d : Date) : of d.year d.month d.day = .ok d := by
  rw [of, dif_pos d.year_valid, dif_pos d.month_valid, dif_pos d.day_valid]

theorem daysInMonth_le (year month : Nat) : daysInMonth year month ≤ 31 := by
  rw [daysInMonth]
  split
  · split <;> omega
  · split <;> omega

theorem year_lt (d : Date) : d.year < 10 ^ 4 := Nat.lt_succ_of_le d.year_valid.2

theorem month_lt (d : Date) : d.month < 10 ^ 2 :=
  Nat.lt_of_le_of_lt d.month_valid.2 (by decide)

theorem day_lt (d : Date) : d.day < 10 ^ 2 := by
  have h : d.day ≤ 31 := Nat.le_trans d.day_valid.2 (daysInMonth_le _ _)
  exact Nat.lt_of_le_of_lt h (by decide)

theorem length_text (d : Date) : d.text.length = 10 := by
  rw [text, List.length_append, List.length_cons, List.length_append, List.length_cons,
    length_digitsPadded (by decide) d.year_lt, length_digitsPadded (by decide) d.month_lt,
    length_digitsPadded (by decide) d.day_lt]

end Date

namespace Moment

/-- The dash behind the year, with a digit behind it, says where the date
ends. -/
theorem dateLength?_text (d : Date) (rest : List Char) :
    dateLength? (d.text ++ rest) = some 10 := by
  obtain ⟨digit, others, hmonth⟩ := List.exists_cons_of_ne_nil (digitsPadded_ne_nil 2 d.month)
  have hdigit : digit.isDigit = true :=
    allDigits_digitsPadded 2 d.month digit (hmonth ▸ List.mem_cons_self)
  have hlength : 10 ≤ (d.text ++ rest).length := by
    rw [List.length_append, d.length_text]
    omega
  have hyear : (digitsPadded 4 d.year).length = 4 := length_digitsPadded (by decide) d.year_lt
  have hdash : (d.text ++ rest)[4]? = some '-' := by
    rw [Date.text, List.append_assoc, List.getElem?_append_right (by omega), hyear]
    rfl
  have hbehind : (d.text ++ rest)[5]? = some digit := by
    rw [Date.text, hmonth, List.append_assoc, List.getElem?_append_right (by omega), hyear]
    rfl
  have hweek : (some digit : Option Char) ≠ some 'W' := by
    intro h
    rw [Option.some.inj h] at hdigit
    exact absurd hdigit (by decide)
  -- with a dash behind the year and no `W` behind the dash, the length is fixed
  simp only [dateLength?, hdash, hbehind]
  rw [if_neg (by omega), if_neg (by omega), if_pos trivial, if_neg hweek]

theorem readDateParts?_text (d : Date) (length : Nat) (rest : List Char) :
    readDateParts? length (d.text ++ rest) = some (d.year, d.month, d.day) := by
  obtain ⟨digit, others, hmonth⟩ := List.exists_cons_of_ne_nil (digitsPadded_ne_nil 2 d.month)
  have hdigit : digit.isDigit = true :=
    allDigits_digitsPadded 2 d.month digit (hmonth ▸ List.mem_cons_self)
  have hweek (cs : List Char) : (digitsPadded 2 d.month ++ cs).head? ≠ some 'W' := by
    rw [hmonth]
    intro h
    rw [Option.some.inj h] at hdigit
    exact absurd hdigit (by decide)
  simp only [readDateParts?, Date.text, List.append_assoc, List.cons_append,
    Clock.readFixed?_digitsPadded (by decide) d.year_lt,
    Clock.readFixed?_digitsPadded (by decide) d.month_lt,
    Clock.readFixed?_digitsPadded (by decide) d.day_lt,
    List.head?_cons, List.tail_cons, if_true, if_neg (hweek _), Option.bind_eq_bind,
    Option.bind_some]

end Moment

/-! ### Times -/

namespace Clock

/-- The parts of a time. -/
def fields (c : Clock) : ClockFields := ⟨c.hour, c.minute, c.second, c.microsecond⟩

theorem of_fields (c : Clock) : of c.fields = .ok c := by
  rw [of]
  refine (dif_pos c.hour_valid).trans ((dif_pos c.minute_valid).trans ?_)
  exact (dif_pos c.second_valid).trans (dif_pos c.microsecond_valid)

theorem readGap_nil (colons : Bool) : readGap colons [] = .ends false := rfl

theorem readGap_colon {cs : List Char} (h : cs ≠ []) : readGap true (':' :: cs) = .part cs := by
  obtain ⟨c, rest, rfl⟩ := List.exists_cons_of_ne_nil h
  rfl

/-- A fraction of six digits is read as it is. -/
theorem readFraction?_digitsPadded {microsecond : Nat} (h : microsecond < 10 ^ 6) :
    readFraction? (digitsPadded 6 microsecond) = some (microsecond, false) := by
  have hread := readFixed?_digitsPadded (by decide) h []
  rw [List.append_nil] at hread
  rw [readFraction?, length_digitsPadded (by decide) h, Nat.min_self]
  show (readFixed? 6 (digitsPadded 6 microsecond)).bind _ = _
  rw [hread, Option.bind_some, Nat.sub_self]
  show some (microsecond * 1, false) = _
  rw [Nat.mul_one]

/-- The gap behind the seconds: the end, or the fraction. -/
theorem readGap_fractionText {microsecond : Nat} (h : microsecond ≠ 0) :
    readGap true (fractionText microsecond) = .fraction (digitsPadded 6 microsecond) := by
  obtain ⟨digit, others, hdigits⟩ :=
    List.exists_cons_of_ne_nil (digitsPadded_ne_nil 6 microsecond)
  rw [fractionText, if_neg h, hdigits]
  rfl

/-- Hours and minutes alone. -/
theorem readFields?_minutes {hour minute : Nat} (hh : hour < 10 ^ 2) (hm : minute < 10 ^ 2) :
    readFields? (digitsPadded 2 hour ++ ':' :: digitsPadded 2 minute)
      = some ({ hour, minute }, false) := by
  have hminute := readFixed?_digitsPadded (by decide) hm []
  rw [List.append_nil] at hminute
  simp only [readFields?, readFixed?_digitsPadded (by decide) hh, hminute,
    readGap_colon (digitsPadded_ne_nil _ _), readGap_nil, List.head?_cons, decide_true,
    Option.bind_eq_bind, Option.bind_some]

/-- Hours, minutes and seconds, with or without a fraction. -/
theorem readFields?_seconds {hour minute second microsecond : Nat} (hh : hour < 10 ^ 2)
    (hm : minute < 10 ^ 2) (hs : second < 10 ^ 2) (hu : microsecond < 10 ^ 6) :
    readFields? (digitsPadded 2 hour ++ ':' :: (digitsPadded 2 minute ++ ':' ::
      (digitsPadded 2 second ++ fractionText microsecond)))
      = some (⟨hour, minute, second, microsecond⟩, false) := by
  have hminutes : digitsPadded 2 minute ++ ':' ::
      (digitsPadded 2 second ++ fractionText microsecond) ≠ [] :=
    List.append_ne_nil_of_left_ne_nil (digitsPadded_ne_nil _ _) _
  have hseconds : digitsPadded 2 second ++ fractionText microsecond ≠ [] :=
    List.append_ne_nil_of_left_ne_nil (digitsPadded_ne_nil _ _) _
  simp only [readFields?, readFixed?_digitsPadded (by decide) hh,
    readFixed?_digitsPadded (by decide) hm, readFixed?_digitsPadded (by decide) hs,
    readGap_colon hminutes, readGap_colon hseconds, List.head?_cons, decide_true,
    Option.bind_eq_bind, Option.bind_some]
  -- the gap behind the seconds is all that depends on the fraction
  by_cases hzero : microsecond = 0
  · subst hzero
    rfl
  · simp only [readGap_fractionText hzero, readFraction?_digitsPadded hu, Option.bind_some]

theorem readFields?_text (c : Clock) : readFields? c.text = some (c.fields, false) :=
  readFields?_seconds (Nat.lt_trans c.hour_valid (by decide))
    (Nat.lt_trans c.minute_valid (by decide)) (Nat.lt_trans c.second_valid (by decide))
    c.microsecond_valid

end Clock

/-! ### Offsets -/

namespace Moment

/-- The characters that end a time: the signs of an offset, and `Z`. -/
def isZone (c : Char) : Bool := c = '+' || c = '-' || c = 'Z'

theorem isZone_of_isDigit {c : Char} (h : c.isDigit = true) : isZone c = false := by
  rw [isZone, Bool.or_eq_false_iff, Bool.or_eq_false_iff]
  refine ⟨⟨?_, ?_⟩, ?_⟩
  all_goals
    refine decide_eq_false ?_
    rintro rfl
    exact absurd h (by decide)

/-- The text of a time has no sign and no `Z`. -/
theorem isZone_of_mem_text {clock : Clock} {c : Char} (h : c ∈ clock.text) : isZone c = false := by
  have hdigits (width n : Nat) (h : c ∈ digitsPadded width n) : isZone c = false :=
    isZone_of_isDigit (allDigits_digitsPadded width n c h)
  have hfraction (h : c ∈ Clock.fractionText clock.microsecond) : isZone c = false := by
    rw [Clock.fractionText] at h
    split at h
    · cases h
    · rcases List.mem_cons.1 h with rfl | h
      · rfl
      · exact hdigits _ _ h
  simp only [Clock.text, List.mem_append, List.mem_cons] at h
  -- hours, minutes, seconds and what is between them: digits, colons and a point
  rcases h with h | rfl | h | rfl | h | h
  · exact hdigits _ _ h
  · rfl
  · exact hdigits _ _ h
  · rfl
  · exact hdigits _ _ h
  · exact hfraction h

/-- The sign of a written offset. -/
def offsetSign (o : Int) : Char := if o < 0 then '-' else '+'

theorem offsetSign_cases (o : Int) : offsetSign o = '-' ∨ offsetSign o = '+' := ite_eq_or_eq _ _ _

theorem isZone_offsetSign (o : Int) : isZone (offsetSign o) = true := by
  rcases offsetSign_cases o with h | h
  · rw [h]
    rfl
  · rw [h]
    rfl

/-- The length of an offset in hours, minutes, seconds and microseconds. -/
def offsetFields (o : Int) : ClockFields where
  hour := o.natAbs / 1000000 / 3600
  minute := o.natAbs / 1000000 / 60 % 60
  second := o.natAbs / 1000000 % 60
  microsecond := o.natAbs % 1000000

/-- An offset is written as its sign and its length. -/
theorem exists_offsetText_eq {o : Int} (h : o.natAbs < dayMicroseconds) :
    ∃ zone, offsetText o = offsetSign o :: zone ∧
      Clock.readFields? zone = some (offsetFields o, false) := by
  refine ⟨_, rfl, ?_⟩
  have hhour : o.natAbs / 1000000 / 3600 < 10 ^ 2 := by
    have hday : o.natAbs < 86400000000 := h
    omega
  have hminute : o.natAbs / 1000000 / 60 % 60 < 10 ^ 2 :=
    Nat.lt_trans (Nat.mod_lt _ (by decide)) (by decide : 60 < 10 ^ 2)
  have hsecond : o.natAbs / 1000000 % 60 < 10 ^ 2 :=
    Nat.lt_trans (Nat.mod_lt _ (by decide)) (by decide : 60 < 10 ^ 2)
  rw [offsetFields]
  -- the seconds are left out if they and the fraction are zero
  by_cases hzero : o.natAbs / 1000000 % 60 = 0 ∧ o.natAbs % 1000000 = 0
  · rw [if_pos hzero, List.append_nil, hzero.1, hzero.2]
    exact Clock.readFields?_minutes hhour hminute
  · rw [if_neg hzero]
    exact Clock.readFields?_seconds hhour hminute hsecond (Nat.mod_lt _ (by decide))

/-- An offset of a second or more is made up of its sign and its length. -/
theorem offset_of_fields {o : Int} (h : o = 0 ∨ 1000000 ≤ o.natAbs) :
    let z := offsetFields o
    let seconds := z.hour * 3600 + z.minute * 60 + z.second
    let total : Int := if seconds = 0 then 0 else seconds * 1000000 + z.microsecond
    (if offsetSign o = '-' then -total else total) = o := by
  intro z seconds total
  have hseconds : seconds = o.natAbs / 1000000 := by
    show o.natAbs / 1000000 / 3600 * 3600 + o.natAbs / 1000000 / 60 % 60 * 60
      + o.natAbs / 1000000 % 60 = _
    omega
  -- no whole second means no offset here, for a shorter one is excluded
  have htotal : total = o.natAbs := by
    show (if seconds = 0 then (0 : Int) else seconds * 1000000 + (o.natAbs % 1000000 : Nat)) = _
    rw [hseconds]
    split <;> omega
  rw [htotal, offsetSign]
  by_cases hneg : o < 0
  · rw [if_pos hneg, if_pos rfl]
    omega
  · rw [if_neg hneg, if_neg (by decide)]
    omega

/-- A text behind a time that is empty or starts with a sign is kept apart from
the time. -/
theorem divide_text (clock : Clock) {behind : List Char}
    (h : ∀ c ∈ behind.head?, isZone c = true) :
    (clock.text ++ behind).takeWhile (fun c => !isZone c) = clock.text ∧
      (clock.text ++ behind).dropWhile (fun c => !isZone c) = behind := by
  have hfree : ∀ c ∈ clock.text, (!isZone c) = true := by
    intro c hc
    rw [isZone_of_mem_text hc]
    rfl
  rw [List.takeWhile_append_of_pos hfree, List.dropWhile_append_of_pos hfree]
  cases behind with
  | nil => exact ⟨List.append_nil _, rfl⟩
  | cons c cs =>
    have hc : isZone c = true := h c rfl
    rw [List.takeWhile_cons, List.dropWhile_cons, hc]
    exact ⟨List.append_nil _, rfl⟩

theorem readTimeParts?_naive (clock : Clock) :
    readTimeParts? clock.text = some (clock.fields, none) := by
  have hempty : ∀ c ∈ ([] : List Char).head?, isZone c = true := by simp
  obtain ⟨htime, hbehind⟩ := divide_text clock hempty
  rw [List.append_nil] at htime hbehind
  simp only [isZone] at htime hbehind
  simp only [readTimeParts?, htime, hbehind, Clock.readFields?_text]
  rfl

theorem readTimeParts?_offset (clock : Clock) {o : Int} (hday : o.natAbs < dayMicroseconds)
    (h : o = 0 ∨ 1000000 ≤ o.natAbs) :
    readTimeParts? (clock.text ++ offsetText o) = some (clock.fields, some o) := by
  obtain ⟨zone, hzone, hread⟩ := exists_offsetText_eq hday
  have hvalue := offset_of_fields h
  have hfirst : ∀ c ∈ (offsetSign o :: zone).head?, isZone c = true := by
    intro c hc
    rw [← Option.some.inj hc]
    exact isZone_offsetSign o
  obtain ⟨htime, hbehind⟩ := divide_text clock hfirst
  simp only [isZone] at htime hbehind
  rw [hzone]
  -- neither sign is a `Z`, so the length behind it is read in the same way
  rcases offsetSign_cases o with hsign | hsign
  all_goals
    rw [hsign] at hvalue htime hbehind ⊢
    simp only [readTimeParts?, htime, hbehind, Clock.readFields?_text, Option.bind_eq_bind,
      Option.bind_some]
    show (Clock.readFields? zone).bind _ = _
    rw [hread]
    exact congrArg (fun o => some (clock.fields, some o)) hvalue

/-! ### Moments -/

theorem readParts?_text (date : Date) {clock : Clock} {offset : Option Int} {behind : List Char}
    (h : readTimeParts? (clock.text ++ behind) = some (clock.fields, offset)) :
    readParts? (date.text ++ 'T' :: (clock.text ++ behind))
      = some ((date.year, date.month, date.day), clock.fields, offset) := by
  have hlong : ¬ (date.text ++ 'T' :: (clock.text ++ behind)).length ≤ 10 := by
    rw [List.length_append, date.length_text, List.length_cons]
    omega
  have hdrop : (date.text ++ 'T' :: (clock.text ++ behind)).drop 11 = clock.text ++ behind := by
    have hdate : date.text.drop 11 = [] :=
      List.drop_of_length_le (by rw [date.length_text]; omega)
    rw [List.drop_append, date.length_text, hdate]
    rfl
  simp only [readParts?, dateLength?_text, readDateParts?_text, if_neg hlong, hdrop, h,
    Option.bind_eq_bind, Option.bind_some]

/-- **A moment is read back from its written form**, with every part of its
date and time, and with its offset unless that is shorter than a second. -/
theorem read_isoText {m : Moment} (h : ∀ o ∈ m.offset, o = 0 ∨ 1000000 ≤ o.natAbs) :
    read m.isoText = .ok m := by
  -- the text is taken apart first, and then the parts are checked, which they came from
  have hparts : readParts? m.isoText.toList
      = some ((m.date.year, m.date.month, m.date.day), m.clock.fields, m.offset) := by
    rw [isoText, textWith, String.toList_ofList]
    refine readParts?_text m.date ?_
    rcases ho : m.offset with - | o
    · rw [List.append_nil]
      exact readTimeParts?_naive m.clock
    · exact readTimeParts?_offset m.clock (m.offset_valid o ho) (h o ho)
  have hofParts : ofParts (m.date.year, m.date.month, m.date.day) m.clock.fields m.offset
      = .ok m := by
    rw [ofParts, dif_pos m.offset_valid, m.date.of_parts, m.clock.of_fields]
    rfl
  rw [read, hparts]
  exact hofParts

end Moment

end TableQuery
