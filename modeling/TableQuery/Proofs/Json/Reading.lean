/-
TableQuery/Proofs/Json/Reading.lean

JSON documents read back.

The reader knows the language and not the layout: gaps may stand around every
part, an object may name its members as it likes, a comma stands between two
parts and nowhere else, and a number has no zero in front.  Only fractions and
exponents are missing, since a value's numbers are whole (`Json.number`), and a
document that holds one is refused.

What a reader finds does not depend on what stands around it (`Reads`).  A
sequence of parts is read by one function with a reader of a part as its
parameter, so a list and an object need one argument between them
(`readEnclosed?_enclose`), and the round trip of a value is an induction over
its parts.

Main results: a written value is read back as it was (`read?_written`), and it
is ASCII (`isAscii_written`).
-/
import TableQuery.Json
import TableQuery.Proofs.Number.Numeral
import TableQuery.Proofs.Text.Escaped

namespace TableQuery

open Text

namespace Json

/-! ### Reading documents -/

/-- White space between the parts of a document. -/
def isGap (c : Char) : Bool := c == ' ' || c == '\t' || c == '\n' || c == '\r'

/-- The characters from the first one on that is no gap. -/
def skipGaps (cs : List Char) : List Char := cs.dropWhile isGap

/-- What stands behind this mark, which only gaps come before. -/
def behind? (mark : Char) (cs : List Char) : Option (List Char) :=
  match skipGaps cs with
  | [] => none
  | c :: rest => if c = mark then some rest else none

/-- The first character of a number. -/
def IsNumeric (c : Char) : Prop := c = '-' ∨ c.isDigit = true

instance (c : Char) : Decidable (IsNumeric c) :=
  inferInstanceAs (Decidable (c = '-' ∨ c.isDigit = true))

/-- The number at the front, without a sign; no zero stands in front of its
digits. -/
def readNatural? (cs : List Char) : Option (Nat × List Char) :=
  let digits := cs.takeWhile Char.isDigit
  if digits = [] ∨ digits.head? = some '0' ∧ digits.length ≠ 1 then none
  else some (Nat.ofDigitChars 10 digits 0, cs.dropWhile Char.isDigit)

/-- The number at the front. -/
def readNumber? : List Char → Option (Int × List Char)
  | [] => none
  | c :: cs =>
    if c = '-' then (readNatural? cs).map (Prod.map (fun n : Nat => -(n : Int)) id)
    else (readNatural? (c :: cs)).map (Prod.map (fun n : Nat => (n : Int)) id)

/-- The value that a word at the front stands for. -/
def readWord? (cs : List Char) : Option (Json × List Char) :=
  let word (name : String) (v : Json) := (name.toList.isPrefixOf? cs).map fun rest => (v, rest)
  word "null" .null <|> word "true" (.boolean true) <|> word "false" (.boolean false)

section Parts

variable {α : Type} (part : List Char → Option (α × List Char))

/-- Parts with a comma between each two, up to the mark that closes them. -/
def readParts? (closing : Char) : Nat → List Char → Option (List α × List Char)
  | 0, _ => none
  | fuel + 1, cs =>
    (part cs).bind fun first =>
      match behind? ',' first.2 with
      | some rest => (readParts? closing fuel rest).map (Prod.map (first.1 :: ·) id)
      | none => (behind? closing first.2).map fun rest => ([first.1], rest)

/-- What stands up to the mark that closes it: parts or nothing. -/
def readEnclosed? (closing : Char) (fuel : Nat) (cs : List Char) : Option (List α × List Char) :=
  match behind? closing cs with
  | some rest => some ([], rest)
  | none => readParts? part closing fuel cs

/-- A name, and what a colon gives it. -/
def readMember? (cs : List Char) : Option ((String × α) × List Char) :=
  (behind? '"' cs).bind fun rest =>
    (readEscaped? rest).bind fun name =>
      (behind? ':' name.2).bind fun rest =>
        (part rest).map (Prod.map (fun v => (String.ofList name.1, v)) id)

end Parts

/-- The value at the front of a document, and what stands behind it.  The fuel
bounds how deep values stand in one another and how many parts each has. -/
def readValue? : Nat → List Char → Option (Json × List Char)
  | 0, _ => none
  | fuel + 1, cs =>
    match skipGaps cs with
    | [] => none
    | c :: rest =>
      if c = '"' then
        (readEscaped? rest).map (Prod.map (fun text => .text (String.ofList text)) id)
      else if c = '[' then
        (readEnclosed? (readValue? fuel) ']' fuel rest).map (Prod.map .list id)
      else if c = '\x7b' then
        (readEnclosed? (readMember? (readValue? fuel)) '\x7d' fuel rest).map (Prod.map .object id)
      else if IsNumeric c then
        (readNumber? (c :: rest)).map (Prod.map .number id)
      else readWord? (c :: rest)

/-- The value of a document: one value with nothing but gaps around it. -/
def read? (document : String) : Option Json :=
  (readValue? (document.length + 1) document.toList).bind fun read =>
    if skipGaps read.2 = [] then some read.1 else none

/-! ### Gaps -/

/-- All characters are gaps. -/
def Gap (cs : List Char) : Prop := ∀ c ∈ cs, isGap c = true

theorem gap_nil : Gap [] := List.forall_mem_nil _

theorem gap_newLine (indent : Nat) : Gap (newLine indent) := by
  refine List.forall_mem_cons.2 ⟨by decide, fun c h => ?_⟩
  rw [List.eq_of_mem_replicate h]
  decide

theorem skipGaps_append {gap : List Char} (h : Gap gap) (cs : List Char) :
    skipGaps (gap ++ cs) = skipGaps cs :=
  List.dropWhile_append_of_pos h

theorem skipGaps_cons {c : Char} (h : isGap c = false) (cs : List Char) :
    skipGaps (c :: cs) = c :: cs := by
  rw [skipGaps, List.dropWhile_cons, h]
  rfl

theorem behind?_append {gap : List Char} (hgap : Gap gap) {mark : Char}
    (hmark : isGap mark = false) (rest : List Char) :
    behind? mark (gap ++ mark :: rest) = some rest := by
  rw [behind?, skipGaps_append hgap, skipGaps_cons hmark]
  exact if_pos rfl

theorem behind?_append_of_ne {gap : List Char} (hgap : Gap gap) {c mark : Char}
    (hc : isGap c = false) (hne : c ≠ mark) (rest : List Char) :
    behind? mark (gap ++ c :: rest) = none := by
  rw [behind?, skipGaps_append hgap, skipGaps_cons hc]
  exact if_neg hne

/-! ### What a reader finds -/

/-- These characters cannot go on with the digits of a number. -/
def Apart (cs : List Char) : Prop := ∀ c ∈ cs.head?, c.isDigit = false

theorem apart_nil : Apart [] := fun _ h => nomatch h

theorem apart_cons {c : Char} (h : c.isDigit = false) (cs : List Char) : Apart (c :: cs) := by
  intro d hd
  rwa [← Option.some.inj hd]

theorem apart_newLine_append (indent : Nat) (cs : List Char) : Apart (newLine indent ++ cs) :=
  apart_cons (by decide) _

/-- The reader finds this value in these characters, behind any gap and
whatever follows them. -/
def Reads {α : Type} (part : List Char → Option (α × List Char)) (chars : List Char) (value : α) :
    Prop :=
  ∀ gap rest, Gap gap → Apart rest → part (gap ++ (chars ++ rest)) = some (value, rest)

/-- The characters start with one that is no gap and not this mark. -/
def Opens (mark : Char) (chars : List Char) : Prop :=
  ∃ c rest, chars = c :: rest ∧ isGap c = false ∧ c ≠ mark

theorem behind?_of_opens {gap : List Char} (hgap : Gap gap) {mark : Char} {cs : List Char}
    (h : Opens mark cs) : behind? mark (gap ++ cs) = none := by
  obtain ⟨c, rest, rfl, hc, hne⟩ := h
  exact behind?_append_of_ne hgap hc hne rest

theorem Opens.append {mark : Char} {chars : List Char} (h : Opens mark chars) (cs : List Char) :
    Opens mark (chars ++ cs) := by
  obtain ⟨c, rest, rfl, hgap, hne⟩ := h
  exact ⟨c, rest ++ cs, rfl, hgap, hne⟩

theorem Opens.intercalate {mark : Char} {chars : List Char} (h : Opens mark chars)
    (sep : List Char) (others : List (List Char)) :
    Opens mark (sep.intercalate (chars :: others)) := by
  cases others with
  | nil => rwa [List.intercalate_singleton]
  | cons next others =>
    rw [List.intercalate_cons_cons, List.append_assoc]
    exact h.append _

/-! ### Numbers -/

/-- Only zero is written with a zero in front. -/
theorem eq_zero_of_head?_toDigits {n : Nat} (h : (Nat.toDigits 10 n).head? = some '0') :
    n = 0 := by
  induction n using Nat.strongRecOn with
  | ind n ih =>
    by_cases hn : n < 10
    · have hdigit : ∀ n < 10, n.digitChar = '0' → n = 0 := by decide
      rw [Nat.toDigits_of_lt_base hn] at h
      exact hdigit n hn (Option.some.inj h)
    · have hbase : 10 ≤ n := Nat.not_lt.1 hn
      have hfront : (Nat.toDigits 10 (n / 10)).head? = some '0' := by
        rwa [Nat.toDigits_of_base_le (by decide) hbase, List.head?_append,
          List.head?_eq_some_head Nat.toDigits_ne_nil, Option.some_or,
          ← List.head?_eq_some_head] at h
      have hquotient : n / 10 = 0 := ih (n / 10) (Nat.div_lt_self (by omega) (by decide)) hfront
      omega

theorem takeWhile_digits {digits rest : List Char} (hdigits : AllDigits digits)
    (hrest : Apart rest) : (digits ++ rest).takeWhile Char.isDigit = digits := by
  have hnone : rest.takeWhile Char.isDigit = [] := by
    cases rest with
    | nil => rfl
    | cons c rest => rw [List.takeWhile_cons, hrest c rfl]; rfl
  rw [List.takeWhile_append_of_pos hdigits, hnone, List.append_nil]

theorem dropWhile_digits {digits rest : List Char} (hdigits : AllDigits digits)
    (hrest : Apart rest) : (digits ++ rest).dropWhile Char.isDigit = rest := by
  rw [List.dropWhile_append_of_pos hdigits]
  cases rest with
  | nil => rfl
  | cons c rest => rw [List.dropWhile_cons, hrest c rfl]; rfl

theorem readNatural?_toDigits (n : Nat) {rest : List Char} (hrest : Apart rest) :
    readNatural? (Nat.toDigits 10 n ++ rest) = some (n, rest) := by
  have hfirst : ¬((Nat.toDigits 10 n).head? = some '0' ∧ (Nat.toDigits 10 n).length ≠ 1) := by
    rintro ⟨hzero, hlength⟩
    obtain rfl := eq_zero_of_head?_toDigits hzero
    exact hlength rfl
  simp only [readNatural?]
  rw [takeWhile_digits (allDigits_toDigits n) hrest, dropWhile_digits (allDigits_toDigits n) hrest,
    if_neg (not_or.2 ⟨Nat.toDigits_ne_nil, hfirst⟩), Nat.ofDigitChars_ten_toDigits]

/-- The first digit of a number, and the others. -/
theorem exists_toDigits_eq_cons (n : Nat) :
    ∃ c cs, Nat.toDigits 10 n = c :: cs ∧ c.isDigit = true := by
  cases h : Nat.toDigits 10 n with
  | nil => exact absurd h Nat.toDigits_ne_nil
  | cons c cs => exact ⟨c, cs, rfl, allDigits_toDigits n c (h ▸ List.mem_cons_self)⟩

/-- No number starts like a text, a list or an object, and no gap or closing
mark starts a number. -/
theorem IsNumeric.ne {c : Char} (h : IsNumeric c) :
    isGap c = false ∧ c ≠ '"' ∧ c ≠ '[' ∧ c ≠ ']' ∧ c ≠ '\x7b' := by
  have hne {d : Char} (hd : ¬IsNumeric d) : c ≠ d := fun hc => hd (hc ▸ h)
  have hgap : ¬(isGap c = true) := by
    simp only [isGap, Bool.or_eq_true, beq_iff_eq, not_or]
    exact ⟨⟨⟨hne (by decide), hne (by decide)⟩, hne (by decide)⟩, hne (by decide)⟩
  exact ⟨Bool.not_eq_true _ ▸ hgap, hne (by decide), hne (by decide), hne (by decide),
    hne (by decide)⟩

theorem toList_integerText (n : Int) :
    (integerText n).toList = (if n < 0 then ['-'] else []) ++ Nat.toDigits 10 n.natAbs := by
  rw [integerText, String.toList_ofList]

theorem exists_integerText_eq_cons (n : Int) :
    ∃ c cs, (integerText n).toList = c :: cs ∧ IsNumeric c := by
  rw [toList_integerText]
  by_cases hn : n < 0
  · rw [if_pos hn]
    exact ⟨'-', _, rfl, .inl rfl⟩
  · obtain ⟨c, cs, hcs, hc⟩ := exists_toDigits_eq_cons n.natAbs
    rw [if_neg hn]
    exact ⟨c, cs, hcs, .inr hc⟩

/-- A number is read back from its digits and its sign. -/
theorem readNumber?_integerText (n : Int) {rest : List Char} (hrest : Apart rest) :
    readNumber? ((integerText n).toList ++ rest) = some (n, rest) := by
  rw [toList_integerText]
  by_cases hn : n < 0
  · rw [if_pos hn, List.cons_append, List.nil_append, List.cons_append, readNumber?, if_pos rfl,
      readNatural?_toDigits _ hrest, Option.map_some, Prod.map_apply]
    exact congrArg some (Prod.ext (by dsimp only; omega) rfl)
  · obtain ⟨c, cs, hcs, hc⟩ := exists_toDigits_eq_cons n.natAbs
    have hsign : c ≠ '-' := by
      rintro rfl
      exact absurd hc (by decide)
    have hread := readNatural?_toDigits n.natAbs hrest
    rw [hcs, List.cons_append] at hread
    rw [if_neg hn, List.nil_append, hcs, List.cons_append, readNumber?, if_neg hsign, hread,
      Option.map_some, Prod.map_apply]
    exact congrArg some (Prod.ext (by dsimp only; omega) rfl)

/-! ### Sequences of parts -/

/-- The characters between two parts: a comma and a line break. -/
def separator (indent : Nat) : List Char := ',' :: newLine indent

theorem apart_separator_append (indent : Nat) (cs : List Char) :
    Apart (separator indent ++ cs) :=
  apart_cons (by decide) _

theorem behind?_separator (indent : Nat) (cs : List Char) :
    behind? ',' (separator indent ++ cs) = some (newLine indent ++ cs) :=
  behind?_append gap_nil (by decide) _

section Parts

variable {α : Type} {part : List Char → Option (α × List Char)} {chars : α → List Char}
  {closing : Char}

/-- Written parts are read one after the other. -/
theorem readParts?_intercalate (hgap : isGap closing = false) (hcomma : closing ≠ ',')
    (indent before : Nat) (rest : List Char) {gap : List Char} (hfront : Gap gap) {items : List α}
    (hne : items ≠ []) (hreads : ∀ x ∈ items, Reads part (chars x) x) {fuel : Nat}
    (hfuel : items.length ≤ fuel) :
    readParts? part closing fuel (gap ++ ((separator indent).intercalate (items.map chars) ++
      (newLine before ++ closing :: rest))) = some (items, rest) := by
  -- induction on the items: behind the last stands the closing character, behind others a comma
  induction items generalizing fuel gap with
  | nil => exact absurd rfl hne
  | cons x items ih =>
    obtain ⟨hx, hitems⟩ := List.forall_mem_cons.1 hreads
    obtain ⟨fuel, rfl⟩ : ∃ k, fuel = k + 1 :=
      ⟨fuel - 1, by rw [List.length_cons] at hfuel; omega⟩
    cases items with
    | nil =>
      have hlast : behind? ',' (newLine before ++ closing :: rest) = none :=
        behind?_append_of_ne (gap_newLine before) hgap hcomma rest
      rw [List.map_singleton, List.intercalate_singleton, readParts?,
        hx _ _ hfront (apart_newLine_append _ _), Option.bind_some]
      simp only [hlast, behind?_append (gap_newLine before) hgap, Option.map_some]
    | cons y items =>
      have hmore := ih (gap_newLine indent) (List.cons_ne_nil y items) hitems
        (Nat.le_of_succ_le_succ hfuel)
      rw [List.map_cons, List.map_cons, List.intercalate_cons_cons, ← List.map_cons,
        List.append_assoc, List.append_assoc, readParts?,
        hx _ _ hfront (apart_separator_append _ _), Option.bind_some]
      simp only [behind?_separator, hmore, Option.map_some, Prod.map_apply, id]

theorem enclose_append_of_ne_nil {items : List (List Char)} (h : items ≠ []) (opening : Char)
    (indent : Nat) (rest : List Char) :
    enclose opening closing indent items ++ rest =
      opening :: (newLine (indent + 2) ++
        ((separator (indent + 2)).intercalate items ++ (newLine indent ++ closing :: rest))) := by
  have hempty : items.isEmpty = false := List.isEmpty_eq_false_iff.2 h
  rw [enclose, hempty, if_neg Bool.false_ne_true]
  simp only [separator, List.append_assoc, List.cons_append, List.nil_append]

/-- **What was enclosed is read back.** -/
theorem readEnclosed?_enclose (hgap : isGap closing = false) (hcomma : closing ≠ ',')
    (opening : Char) (indent : Nat) {items : List α}
    (hreads : ∀ x ∈ items, Reads part (chars x) x)
    (hopens : ∀ x ∈ items, Opens closing (chars x)) {fuel : Nat} (hfuel : items.length ≤ fuel)
    (rest : List Char) :
    ∃ behind, enclose opening closing indent (items.map chars) ++ rest = opening :: behind ∧
      readEnclosed? part closing fuel behind = some (items, rest) := by
  -- without items the closing character follows at once, which no item begins with
  cases items with
  | nil =>
    have hclosed : behind? closing (closing :: rest) = some rest :=
      behind?_append gap_nil hgap rest
    exact ⟨closing :: rest, rfl, by rw [readEnclosed?, hclosed]⟩
  | cons x items =>
    have hparts := readParts?_intercalate hgap hcomma (indent + 2) indent rest
      (gap_newLine (indent + 2)) (List.cons_ne_nil x items) hreads hfuel
    have hopen := ((hopens x List.mem_cons_self).intercalate (separator (indent + 2))
      (items.map chars)).append (newLine indent ++ closing :: rest)
    refine ⟨_, enclose_append_of_ne_nil (List.cons_ne_nil _ _) opening indent rest, ?_⟩
    rw [List.map_cons] at hparts
    rw [readEnclosed?, behind?_of_opens (gap_newLine _) hopen]
    exact hparts

/-- A member is read from its written name and its written value. -/
theorem reads_member {value : α} {written : List Char} (h : Reads part written value)
    (name : String) :
    Reads (readMember? part) (escaped name.toList ++ ": ".toList ++ written) (name, value) := by
  intro gap rest hgap hrest
  obtain ⟨behind, hname, hread⟩ := readEscaped?_escaped name.toList (": ".toList ++ (written ++ rest))
  have hcolon : behind? ':' (": ".toList ++ (written ++ rest)) = some ([' '] ++ (written ++ rest)) :=
    behind?_append gap_nil (by decide) _
  have hspace : Gap [' '] := List.forall_mem_singleton.2 (by decide)
  rw [List.append_assoc, List.append_assoc, hname, readMember?, behind?_append hgap (by decide),
    Option.bind_some, hread, Option.bind_some, hcolon, Option.bind_some, h _ _ hspace hrest,
    Option.map_some, Prod.map_apply, String.ofList_toList]
  rfl

end Parts

/-! ### Values -/

/-- Whatever holds of a value if it holds of its parts holds of every value. -/
theorem induction_on_parts {P : Json → Prop} (null : P .null) (boolean : ∀ b, P (.boolean b))
    (number : ∀ n, P (.number n)) (text : ∀ s, P (.text s))
    (list : ∀ items, (∀ v ∈ items, P v) → P (.list items))
    (object : ∀ members : List (String × Json), (∀ m ∈ members, P m.2) → P (.object members)) :
    ∀ v, P v
  | .null => null
  | .boolean b => boolean b
  | .number n => number n
  | .text s => text s
  | .list items => list items fun v _ =>
      induction_on_parts null boolean number text list object v
  | .object members => object members fun m _ =>
      induction_on_parts null boolean number text list object m.2
termination_by v => sizeOf v
decreasing_by
  · have := List.sizeOf_lt_of_mem ‹v ∈ items›
    simp only [Json.list.sizeOf_spec]
    omega
  · have := List.sizeOf_lt_of_mem ‹m ∈ members›
    obtain ⟨name, value⟩ := m
    simp only [Prod.mk.sizeOf_spec, Json.object.sizeOf_spec] at *
    omega

theorem writtenItems_eq_map (indent : Nat) (items : List Json) :
    writtenItems indent items = items.map (written indent) := by
  induction items with
  | nil => rfl
  | cons v items ih => rw [writtenItems, ih, List.map_cons]

theorem writtenMembers_eq_map (indent : Nat) (members : List (String × Json)) :
    writtenMembers indent members =
      members.map fun m => escaped m.1.toList ++ ": ".toList ++ written indent m.2 := by
  induction members with
  | nil => rfl
  | cons m members ih => rw [writtenMembers, ih, List.map_cons]

/-- An enclosed text starts with its opening mark. -/
theorem exists_enclose_eq_cons (opening closing : Char) (indent : Nat) (items : List (List Char)) :
    ∃ rest, enclose opening closing indent items = opening :: rest := by
  rw [enclose]
  split
  · exact ⟨_, rfl⟩
  · exact ⟨_, rfl⟩

/-- A written value starts with a character of its own, and no list ends there. -/
theorem opens_written (indent : Nat) (v : Json) : Opens ']' (v.written indent) := by
  -- the first character tells the kind; none of them closes a list or is a gap
  cases v with
  | null => exact ⟨'n', _, rfl, by decide, by decide⟩
  | boolean b =>
    cases b with
    | true => exact ⟨'t', _, rfl, by decide, by decide⟩
    | false => exact ⟨'f', _, rfl, by decide, by decide⟩
  | number n =>
    obtain ⟨c, cs, hcs, hc⟩ := exists_integerText_eq_cons n
    exact ⟨c, cs, hcs, hc.ne.1, hc.ne.2.2.2.1⟩
  | text s => exact ⟨'"', _, rfl, by decide, by decide⟩
  | list items =>
    obtain ⟨rest, h⟩ := exists_enclose_eq_cons '[' ']' indent (writtenItems (indent + 2) items)
    exact ⟨'[', rest, h, by decide, by decide⟩
  | object members =>
    obtain ⟨rest, h⟩ :=
      exists_enclose_eq_cons '\x7b' '\x7d' indent (writtenMembers (indent + 2) members)
    exact ⟨'\x7b', rest, h, by decide, by decide⟩

/-- A name is written as a text, and no object ends there. -/
theorem opens_escaped (cs rest : List Char) : Opens '\x7d' (escaped cs ++ rest) :=
  ⟨'"', _, rfl, by decide, by decide⟩

/-! ### Lengths -/

theorem length_le_intercalate (sep : List Char) {cs : List Char} {items : List (List Char)}
    (h : cs ∈ items) : cs.length ≤ (sep.intercalate items).length := by
  induction items with
  | nil => exact absurd h List.not_mem_nil
  | cons first items ih =>
    cases items with
    | nil => rw [List.mem_singleton.1 h, List.intercalate_singleton]
    | cons next items =>
      rw [List.intercalate_cons_cons, List.length_append, List.length_append]
      rcases List.mem_cons.1 h with rfl | h
      · omega
      · exact Nat.le_trans (ih h) (Nat.le_add_left _ _)

/-- With something between each two of them, texts are no more than the
characters they make up, and one. -/
theorem length_le_length_intercalate {sep : List Char} (hsep : sep ≠ [])
    (items : List (List Char)) : items.length ≤ (sep.intercalate items).length + 1 := by
  have hpos : 0 < sep.length := List.length_pos_iff.2 hsep
  induction items with
  | nil => exact Nat.zero_le _
  | cons first items ih =>
    cases items with
    | nil => exact Nat.le_add_left _ _
    | cons next items =>
      rw [List.intercalate_cons_cons, List.length_append, List.length_append, List.length_cons]
      omega

theorem length_enclose_of_ne_nil {items : List (List Char)} (h : items ≠ [])
    (opening closing : Char) (indent : Nat) :
    ((separator (indent + 2)).intercalate items).length + 2 ≤
      (enclose opening closing indent items).length := by
  have hempty : items.isEmpty = false := List.isEmpty_eq_false_iff.2 h
  rw [enclose, hempty, if_neg Bool.false_ne_true]
  simp only [separator, List.length_append, List.length_cons, List.length_nil]
  omega

theorem length_lt_enclose {cs : List Char} {items : List (List Char)} (h : cs ∈ items)
    (opening closing : Char) (indent : Nat) :
    cs.length < (enclose opening closing indent items).length := by
  have hwhole := length_enclose_of_ne_nil (List.ne_nil_of_mem h) opening closing indent
  have hpart := length_le_intercalate (separator (indent + 2)) h
  omega

theorem length_lt_length_enclose (items : List (List Char)) (opening closing : Char)
    (indent : Nat) : items.length < (enclose opening closing indent items).length := by
  rcases items with - | ⟨first, items⟩
  · exact Nat.zero_lt_succ 1
  · have hwhole := length_enclose_of_ne_nil (List.cons_ne_nil first items) opening closing indent
    have hcount := length_le_length_intercalate (List.cons_ne_nil ',' (newLine (indent + 2)))
      (first :: items)
    rw [separator] at hwhole
    omega

/-- Fuel for an enclosed text is fuel for its parts and for their number. -/
theorem exists_fuel_of_enclose {α : Type} {items : List α} {chars : α → List Char}
    {opening closing : Char} {indent fuel : Nat}
    (h : (enclose opening closing indent (items.map chars)).length ≤ fuel) :
    ∃ k, fuel = k + 1 ∧ items.length ≤ k ∧ ∀ x ∈ items, (chars x).length ≤ k := by
  have hcount := length_lt_length_enclose (items.map chars) opening closing indent
  rw [List.length_map] at hcount
  refine ⟨fuel - 1, by omega, by omega, fun x hx => ?_⟩
  have hpart := length_lt_enclose (List.mem_map_of_mem (f := chars) hx) opening closing indent
  omega

/-! ### The round trip -/

theorem readValue?_gap_append {gap : List Char} (hgap : Gap gap) (fuel : Nat) (cs : List Char) :
    readValue? fuel (gap ++ cs) = readValue? fuel cs := by
  cases fuel with
  | zero => rfl
  | succ fuel => simp only [readValue?, skipGaps_append hgap]

/-- What stands at the front can be told from its first character. -/
theorem readValue?_cons (fuel : Nat) {c : Char} (hc : isGap c = false) (cs : List Char) :
    readValue? (fuel + 1) (c :: cs) =
      if c = '"' then (readEscaped? cs).map (Prod.map (fun text => .text (String.ofList text)) id)
      else if c = '[' then
        (readEnclosed? (readValue? fuel) ']' fuel cs).map (Prod.map .list id)
      else if c = '\x7b' then
        (readEnclosed? (readMember? (readValue? fuel)) '\x7d' fuel cs).map (Prod.map .object id)
      else if IsNumeric c then (readNumber? (c :: cs)).map (Prod.map .number id)
      else readWord? (c :: cs) := by
  rw [readValue?, skipGaps_cons hc]

variable {fuel indent : Nat}

theorem reads_null : Reads (readValue? (fuel + 1)) (written indent .null) .null := by
  intro gap rest hgap _
  rw [readValue?_gap_append hgap]
  exact readValue?_cons fuel (c := 'n') (by decide) _

theorem reads_boolean (b : Bool) :
    Reads (readValue? (fuel + 1)) (written indent (.boolean b)) (.boolean b) := by
  intro gap rest hgap _
  rw [readValue?_gap_append hgap]
  cases b with
  | true => exact readValue?_cons fuel (c := 't') (by decide) _
  | false => exact readValue?_cons fuel (c := 'f') (by decide) _

theorem reads_number (n : Int) :
    Reads (readValue? (fuel + 1)) (written indent (.number n)) (.number n) := by
  intro gap rest hgap hrest
  have hread := readNumber?_integerText n hrest
  obtain ⟨c, cs, hcs, hc⟩ := exists_integerText_eq_cons n
  obtain ⟨hfree, hquote, hlist, -, hobject⟩ := hc.ne
  rw [hcs, List.cons_append] at hread
  rw [readValue?_gap_append hgap, written, hcs, List.cons_append, readValue?_cons fuel hfree,
    if_neg hquote, if_neg hlist, if_neg hobject, if_pos hc, hread]
  rfl

theorem reads_text (s : String) :
    Reads (readValue? (fuel + 1)) (written indent (.text s)) (.text s) := by
  intro gap rest hgap _
  obtain ⟨behind, hwritten, hread⟩ := readEscaped?_escaped s.toList rest
  rw [readValue?_gap_append hgap, written, hwritten, readValue?_cons fuel (by decide), if_pos rfl,
    hread, Option.map_some, Prod.map_apply, String.ofList_toList]
  rfl

theorem reads_list {items : List Json}
    (hitems : ∀ v ∈ items, Reads (readValue? fuel) (v.written (indent + 2)) v)
    (hcount : items.length ≤ fuel) :
    Reads (readValue? (fuel + 1)) (written indent (.list items)) (.list items) := by
  intro gap rest hgap _
  obtain ⟨behind, hwritten, hread⟩ := readEnclosed?_enclose (by decide : isGap ']' = false)
    (by decide) '[' indent hitems (fun v _ => opens_written _ v) hcount rest
  rw [readValue?_gap_append hgap, written, writtenItems_eq_map, hwritten,
    readValue?_cons fuel (by decide), if_neg (by decide), if_pos rfl, hread]
  rfl

theorem reads_object {members : List (String × Json)}
    (hmembers : ∀ m ∈ members, Reads (readValue? fuel) (m.2.written (indent + 2)) m.2)
    (hcount : members.length ≤ fuel) :
    Reads (readValue? (fuel + 1)) (written indent (.object members)) (.object members) := by
  intro gap rest hgap _
  obtain ⟨behind, hwritten, hread⟩ := readEnclosed?_enclose (by decide : isGap '\x7d' = false)
    (by decide) '\x7b' indent (fun m hm => reads_member (hmembers m hm) m.1)
    (fun m _ => (opens_escaped m.1.toList _).append _) hcount rest
  rw [readValue?_gap_append hgap, written, writtenMembers_eq_map, hwritten,
    readValue?_cons fuel (by decide), if_neg (by decide), if_neg (by decide), if_pos rfl, hread]
  rfl

/-- **A written value is read back**, whatever its indentation and whatever
stands around it. -/
theorem reads_written (v : Json) (hfuel : (v.written indent).length ≤ fuel) :
    Reads (readValue? (fuel + 1)) (v.written indent) v := by
  -- What holds a part is longer than the part, and longer than the number of its parts.
  induction v using induction_on_parts generalizing indent fuel with
  | null => exact reads_null
  | boolean b => exact reads_boolean b
  | number n => exact reads_number n
  | text s => exact reads_text s
  | list items ih =>
    rw [written, writtenItems_eq_map] at hfuel
    obtain ⟨fuel, rfl, hcount, hlength⟩ := exists_fuel_of_enclose hfuel
    exact reads_list (fun v hv => ih v hv (hlength v hv)) (Nat.le_succ_of_le hcount)
  | object members ih =>
    rw [written, writtenMembers_eq_map] at hfuel
    obtain ⟨fuel, rfl, hcount, hlength⟩ := exists_fuel_of_enclose hfuel
    refine reads_object (fun m hm => ih m hm ?_) (Nat.le_succ_of_le hcount)
    have hmember := hlength m hm
    rw [List.length_append] at hmember
    omega

/-- **A written document is read back.** -/
theorem read?_written (v : Json) : read? (String.ofList (v.written 0)) = some v := by
  have hread := reads_written v (Nat.le_refl (v.written 0).length) [] [] gap_nil apart_nil
  rw [List.nil_append, List.append_nil] at hread
  rw [read?, String.length_ofList, String.toList_ofList, hread, Option.bind_some]
  exact if_pos rfl

-- The layout is free, and so is the spelling of a text; a comma too many, a zero in front of a
-- number and half a surrogate pair are refused.
example :
    read? "\x7b\"a\" :\"\\u00E9\\ud83d\\ude00\", \"\":[ -1,null]\x7d" =
      some (.object [("a", .text "é😀"), ("", .list [.number (-1), .null])]) := by
  cbv

example : read? "[1,]" = none ∧ read? "01" = none ∧ read? "\"\\ud83d\"" = none := by cbv

/-! ### ASCII -/

theorem isAscii_newLine (indent : Nat) : IsAscii (newLine indent) := by
  refine isAscii_cons (by decide) fun c h => ?_
  rw [List.eq_of_mem_replicate h]
  decide

theorem isAscii_intercalate {sep : List Char} (hsep : IsAscii sep) {items : List (List Char)}
    (h : ∀ cs ∈ items, IsAscii cs) : IsAscii (sep.intercalate items) := by
  induction items with
  | nil => exact isAscii_nil
  | cons first items ih =>
    obtain ⟨hfirst, hitems⟩ := List.forall_mem_cons.1 h
    cases items with
    | nil => rwa [List.intercalate_singleton]
    | cons next items =>
      rw [List.intercalate_cons_cons]
      exact (hfirst.append hsep).append (ih hitems)

theorem isAscii_enclose {opening closing : Char} (hopening : opening.toNat < 0x80)
    (hclosing : closing.toNat < 0x80) {items : List (List Char)} (h : ∀ cs ∈ items, IsAscii cs) :
    IsAscii (enclose opening closing indent items) := by
  have hend : IsAscii [closing] := isAscii_cons hclosing isAscii_nil
  rw [enclose]
  split
  · exact isAscii_cons hopening hend
  · have hsep := isAscii_cons (by decide : ','.toNat < 0x80) (isAscii_newLine (indent + 2))
    exact (((isAscii_cons hopening (isAscii_newLine _)).append (isAscii_intercalate hsep h)).append
      (isAscii_newLine _)).append hend

theorem isAscii_integerText (n : Int) : IsAscii (integerText n).toList := by
  have hdigits : IsAscii (Nat.toDigits 10 n.natAbs) := by
    intro c h
    have hc := allDigits_toDigits n.natAbs c h
    rw [Char.isDigit, Bool.and_eq_true, decide_eq_true_eq, decide_eq_true_eq] at hc
    exact Nat.lt_of_le_of_lt (show c.toNat ≤ 57 from hc.2) (by decide)
  rw [toList_integerText]
  split
  · exact isAscii_cons (by decide) hdigits
  · exact hdigits

/-- **A written value is ASCII.** -/
theorem isAscii_written (v : Json) : IsAscii (v.written indent) := by
  induction v using induction_on_parts generalizing indent with
  | null => exact isAscii_of_all (by decide : "null".toList.all _ = true)
  | boolean b =>
    cases b with
    | true => exact isAscii_of_all (by decide : "true".toList.all _ = true)
    | false => exact isAscii_of_all (by decide : "false".toList.all _ = true)
  | number n => exact isAscii_integerText n
  | text s => exact isAscii_escaped s.toList
  | list items ih =>
    rw [written, writtenItems_eq_map]
    refine isAscii_enclose (by decide) (by decide) fun cs h => ?_
    obtain ⟨v, hv, rfl⟩ := List.mem_map.1 h
    exact ih v hv
  | object members ih =>
    rw [written, writtenMembers_eq_map]
    refine isAscii_enclose (by decide) (by decide) fun cs h => ?_
    obtain ⟨m, hm, rfl⟩ := List.mem_map.1 h
    have hcolon : IsAscii ": ".toList := isAscii_of_all (by decide)
    exact ((isAscii_escaped _).append hcolon).append (ih m hm)

end Json

end TableQuery
