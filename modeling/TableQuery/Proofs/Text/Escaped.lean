/-
TableQuery/Proofs/Text/Escaped.lean

JSON strings read back.

A reader of JSON strings takes any of them: plain characters, escapes by a
letter, and units in four hexadecimal digits of either case.  What it collects
are UTF-16 units (`readUnits?`), and the characters are found from the units in
a second step (`ofUnits16?`).  So a character that is written by two units, each
with an escape of its own, needs no care while the string is read.  A surrogate
without its other half is no character, and a control character has to be
escaped; both are refused.

Main results: a text is read back from its JSON string, whatever stands behind
that (`readEscaped?_escaped`), and the string is ASCII (`isAscii_escaped`).
-/
import TableQuery.Text.Escaped

namespace TableQuery.Text

/-! ### Reading JSON strings -/

/-- The value of a hexadecimal digit, in either case. -/
def hexValue? (c : Char) : Option Nat :=
  if '0' ≤ c ∧ c ≤ '9' then some (c.toNat - '0'.toNat)
  else if 'a' ≤ c ∧ c ≤ 'f' then some (c.toNat - 'a'.toNat + 10)
  else if 'A' ≤ c ∧ c ≤ 'F' then some (c.toNat - 'A'.toNat + 10)
  else none

/-- The unit that four hexadecimal digits stand for. -/
def unitOf? (a b c d : Char) : Option Nat := do
  some ((← hexValue? a) * 4096 + (← hexValue? b) * 256 + (← hexValue? c) * 16 + (← hexValue? d))

/-- The character that a letter behind a backslash stands for. -/
def letterEscape? : Char → Option Char
  | '"' => some '"'
  | '\\' => some '\\'
  | '/' => some '/'
  | 'b' => some '\x08'
  | 'f' => some '\x0c'
  | 'n' => some '\n'
  | 'r' => some '\r'
  | 't' => some '\t'
  | _ => none

/-- Units in front of what has been read. -/
def prepend (units : List Nat) (read : List Nat × List Char) : List Nat × List Char :=
  (units ++ read.1, read.2)

/-- The UTF-16 units of a JSON string behind its first quote, up to the quote
that ends it, and what stands behind that. -/
def readUnits? : List Char → Option (List Nat × List Char)
  | [] => none
  | c :: cs =>
    if c = '"' then some ([], cs)
    else if c = '\\' then
      match cs with
      | 'u' :: a :: b :: c :: d :: rest =>
        (unitOf? a b c d).bind fun u => (readUnits? rest).map (prepend [u])
      | letter :: rest =>
        (letterEscape? letter).bind fun c => (readUnits? rest).map (prepend (units16 c))
      | [] => none
    else if c.toNat < 0x20 then none
    else (readUnits? cs).map (prepend (units16 c))

/-- The characters of UTF-16 units; a surrogate counts only with its other
half. -/
def ofUnits16? : List Nat → Option (List Char)
  | [] => some []
  | u :: us =>
    if 0xD800 ≤ u ∧ u < 0xDC00 then
      match us with
      | low :: rest =>
        if 0xDC00 ≤ low ∧ low < 0xE000 then
          let c := Char.ofNat (0x10000 + (u - 0xD800) * 0x400 + (low - 0xDC00))
          (ofUnits16? rest).map (c :: ·)
        else none
      | [] => none
    else if 0xDC00 ≤ u ∧ u < 0xE000 then none
    else (ofUnits16? us).map (Char.ofNat u :: ·)

/-- The characters of a JSON string behind its first quote, and what stands
behind the string. -/
def readEscaped? (cs : List Char) : Option (List Char × List Char) :=
  (readUnits? cs).bind fun read => (ofUnits16? read.1).map fun text => (text, read.2)

/-! ### Units -/

theorem hexValue?_hexDigit {n : Nat} (h : n < 16) : hexValue? (hexDigit n) = some n := by
  have hall : ∀ n < 16, hexValue? (hexDigit n) = some n := by decide
  exact hall n h

/-- A unit is read back from its four digits. -/
theorem readUnits?_escapeUnit {n : Nat} (h : n < 0x10000) (rest : List Char) :
    readUnits? (escapeUnit n ++ rest) = (readUnits? rest).map (prepend [n]) := by
  have hdigits : unitOf? (hexDigit (n / 4096 % 16)) (hexDigit (n / 256 % 16))
      (hexDigit (n / 16 % 16)) (hexDigit (n % 16)) = some n := by
    have hvalue (m : Nat) : hexValue? (hexDigit (m % 16)) = some (m % 16) :=
      hexValue?_hexDigit (Nat.mod_lt m (by decide))
    simp only [unitOf?, hvalue, Option.bind_eq_bind, Option.bind_some]
    exact congrArg some (by omega)
  rw [escapeUnit]
  show (unitOf? _ _ _ _).bind _ = _
  rw [hdigits, Option.bind_some]
  rfl

theorem map_prepend_append (first second : List Nat) (read : Option (List Nat × List Char)) :
    (read.map (prepend second)).map (prepend first) = read.map (prepend (first ++ second)) := by
  cases read with
  | none => rfl
  | some read =>
    simp only [Option.map_some, prepend, List.append_assoc]

theorem map_prepend_nil (read : Option (List Nat × List Char)) : read.map (prepend []) = read := by
  cases read with
  | none => rfl
  | some read => rfl

theorem readUnits?_flatMap_escapeUnit {units : List Nat} (h : ∀ n ∈ units, n < 0x10000)
    (rest : List Char) :
    readUnits? (units.flatMap escapeUnit ++ rest) = (readUnits? rest).map (prepend units) := by
  induction units with
  | nil => exact (map_prepend_nil _).symm
  | cons n units ih =>
    obtain ⟨hn, hunits⟩ := List.forall_mem_cons.1 h
    rw [List.flatMap_cons, List.append_assoc, readUnits?_escapeUnit hn, ih hunits,
      map_prepend_append, List.singleton_append]

/-- The code point of a character is below the surrogates or above them. -/
theorem toNat_valid (c : Char) :
    c.toNat < 0xD800 ∨ 0xE000 ≤ c.toNat ∧ c.toNat < 0x110000 := by
  rcases c.valid with h | ⟨hlow, hhigh⟩
  · exact .inl h
  · exact .inr ⟨hlow, hhigh⟩

theorem lt_of_mem_units16 {c : Char} {n : Nat} (h : n ∈ units16 c) : n < 0x10000 := by
  have hvalid := toNat_valid c
  rw [units16] at h
  split at h
  · rw [List.mem_singleton.1 h]
    assumption
  · simp only [List.mem_cons, List.not_mem_nil, or_false] at h
    omega

/-- A character is found again from its units. -/
theorem ofUnits16?_units16 (c : Char) (rest : List Nat) :
    ofUnits16? (units16 c ++ rest) = (ofUnits16? rest).map (c :: ·) := by
  have hvalid := toNat_valid c
  rw [units16]
  split
  · rw [List.singleton_append, ofUnits16?.eq_def]
    dsimp only
    rw [if_neg (by omega), if_neg (by omega), Char.ofNat_toNat]
  · have hcode : 0x10000 + (0xD800 + (c.toNat - 0x10000) / 0x400 - 0xD800) * 0x400
        + (0xDC00 + (c.toNat - 0x10000) % 0x400 - 0xDC00) = c.toNat := by omega
    rw [List.cons_append, List.singleton_append, ofUnits16?.eq_def]
    dsimp only
    rw [if_pos (by omega), if_pos (by omega), hcode, Char.ofNat_toNat]

theorem ofUnits16?_flatMap_units16 (cs : List Char) :
    ofUnits16? (cs.flatMap units16) = some cs := by
  induction cs with
  | nil => rfl
  | cons c cs ih => rw [List.flatMap_cons, ofUnits16?_units16, ih, Option.map_some]

/-! ### The round trip -/

/-- A character that is written as itself is read as its units. -/
theorem readUnits?_cons {c : Char} (hquote : c ≠ '"') (hslash : c ≠ '\\') (h : 0x20 ≤ c.toNat)
    (rest : List Char) :
    readUnits? (c :: rest) = (readUnits? rest).map (prepend (units16 c)) := by
  rw [readUnits?.eq_def]
  dsimp only
  rw [if_neg hquote, if_neg hslash, if_neg (Nat.not_lt.2 h)]

/-- A written character is read as its units, however it is written. -/
theorem readUnits?_escapeChar (c : Char) (rest : List Char) :
    readUnits? (escapeChar c ++ rest) = (readUnits? rest).map (prepend (units16 c)) := by
  -- the characters with an escape of their own come first, one by one
  by_cases hquote : c = '"'
  · subst hquote
    rfl
  by_cases hslash : c = '\\'
  · subst hslash
    rfl
  by_cases hfeed : c = '\n'
  · subst hfeed
    rfl
  by_cases hreturn : c = '\r'
  · subst hreturn
    rfl
  by_cases htab : c = '\t'
  · subst htab
    rfl
  by_cases hback : c = '\x08'
  · subst hback
    rfl
  by_cases hform : c = '\x0c'
  · subst hform
    rfl
  rw [escapeChar, if_neg hquote, if_neg hslash, if_neg hfeed, if_neg hreturn, if_neg htab,
    if_neg hback, if_neg hform]
  -- the others stand for themselves or are written by their units
  split
  · next hplain => exact readUnits?_cons hquote hslash hplain.1 rest
  · exact readUnits?_flatMap_escapeUnit (fun n hn => lt_of_mem_units16 hn) rest

theorem readUnits?_flatMap_escapeChar (cs rest : List Char) :
    readUnits? (cs.flatMap escapeChar ++ '"' :: rest) = some (cs.flatMap units16, rest) := by
  induction cs with
  | nil =>
    rw [List.flatMap_nil, List.nil_append, readUnits?.eq_def]
    rfl
  | cons c cs ih =>
    rw [List.flatMap_cons, List.append_assoc, readUnits?_escapeChar, ih, List.flatMap_cons]
    rfl

/-- **A text is read back from its JSON string.** -/
theorem readEscaped?_escaped (cs rest : List Char) :
    ∃ behind, escaped cs ++ rest = '"' :: behind ∧ readEscaped? behind = some (cs, rest) := by
  refine ⟨cs.flatMap escapeChar ++ '"' :: rest, ?_, ?_⟩
  · rw [escaped, List.cons_append, List.cons_append, List.append_assoc, List.singleton_append]
  · rw [readEscaped?, readUnits?_flatMap_escapeChar, Option.bind_some, ofUnits16?_flatMap_units16,
      Option.map_some]

/-! ### ASCII -/

/-- All characters are ASCII. -/
def IsAscii (cs : List Char) : Prop := ∀ c ∈ cs, c.toNat < 0x80

theorem isAscii_nil : IsAscii [] := List.forall_mem_nil _

theorem isAscii_cons {c : Char} {cs : List Char} (hc : c.toNat < 0x80) (hcs : IsAscii cs) :
    IsAscii (c :: cs) :=
  List.forall_mem_cons.2 ⟨hc, hcs⟩

theorem isAscii_of_all {cs : List Char} (h : cs.all (fun c => c.toNat < 0x80) = true) :
    IsAscii cs :=
  fun c hc => of_decide_eq_true (List.all_eq_true.1 h c hc)

theorem IsAscii.append {cs ds : List Char} (hc : IsAscii cs) (hd : IsAscii ds) :
    IsAscii (cs ++ ds) := by
  intro c h
  rcases List.mem_append.1 h with h | h
  · exact hc c h
  · exact hd c h

theorem isAscii_flatMap {α : Type} {f : α → List Char} {xs : List α} (h : ∀ x ∈ xs, IsAscii (f x)) :
    IsAscii (xs.flatMap f) := by
  intro c hc
  obtain ⟨x, hx, hc⟩ := List.mem_flatMap.1 hc
  exact h x hx c hc

theorem isAscii_hexDigit {n : Nat} (h : n < 16) : (hexDigit n).toNat < 0x80 := by
  have hall : ∀ n < 16, (hexDigit n).toNat < 0x80 := by decide
  exact hall n h

theorem isAscii_escapeUnit (n : Nat) : IsAscii (escapeUnit n) := by
  have hdigit (m : Nat) : (hexDigit (m % 16)).toNat < 0x80 :=
    isAscii_hexDigit (Nat.mod_lt m (by decide))
  rw [escapeUnit]
  refine isAscii_cons (by decide) (isAscii_cons (by decide) ?_)
  exact isAscii_cons (hdigit _) (isAscii_cons (hdigit _) (isAscii_cons (hdigit _)
    (isAscii_cons (hdigit _) isAscii_nil)))

theorem isAscii_escapeChar (c : Char) : IsAscii (escapeChar c) := by
  have hshort (d : Char) (hd : d.toNat < 0x80) : IsAscii ['\\', d] :=
    isAscii_cons (by decide) (isAscii_cons hd isAscii_nil)
  rw [escapeChar]
  split
  · exact hshort _ (by decide)
  split
  · exact hshort _ (by decide)
  split
  · exact hshort _ (by decide)
  split
  · exact hshort _ (by decide)
  split
  · exact hshort _ (by decide)
  split
  · exact hshort _ (by decide)
  split
  · exact hshort _ (by decide)
  split
  · next hplain => exact isAscii_cons (by omega) isAscii_nil
  · exact isAscii_flatMap fun n _ => isAscii_escapeUnit n

/-- A JSON string is ASCII, whatever the text. -/
theorem isAscii_escaped (cs : List Char) : IsAscii (escaped cs) := by
  rw [escaped, List.cons_append]
  refine isAscii_cons (by decide) ((isAscii_flatMap fun c _ => isAscii_escapeChar c).append ?_)
  exact isAscii_cons (by decide) isAscii_nil

end TableQuery.Text
