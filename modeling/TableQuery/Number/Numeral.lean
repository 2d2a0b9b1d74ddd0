/-
TableQuery/Number/Numeral.lean

Numbers written as text.

Design.  A numeral is read into its parts (`Numeral`), which keep what was
written; its value is a second step.  `Numeral.read?` accepts a whole text or
nothing: an optional sign, digits with an optional point among or around them,
and an optional exponent.  A digit is a decimal digit of any script.

Cells hold numerals only (`readNumber?`, which also refuses what overflows).
A setting's text may in addition group its digits by underscores, name an
infinity or no number, and stand between blanks (`readReal?`).
-/
import TableQuery.Number.Notation
import TableQuery.Text.Blank
import TableQuery.Text.Digit

namespace TableQuery

open Text

/-- The parts of a written decimal number. -/
structure Numeral where
  negative : Bool
  /-- The digits before the point. -/
  whole : List Nat
  /-- The digits after the point. -/
  fraction : List Nat
  exponent : Int
  deriving DecidableEq, Repr

/-! ### Reading -/

/-- An optional sign in front. -/
def readSign : List Char → Bool × List Char
  | '+' :: cs => (false, cs)
  | '-' :: cs => (true, cs)
  | cs => (false, cs)

/-- The digits in front, by value. -/
def readDigits : List Char → List Nat × List Char
  | [] => ([], [])
  | c :: cs =>
    match digitValue? c with
    | some d => (d :: (readDigits cs).1, (readDigits cs).2)
    | none => ([], c :: cs)

/-- The natural number that digits stand for. -/
def digitsValue (digits : List Nat) : Nat :=
  digits.foldl (fun v d => 10 * v + d) 0

/-- The rest of a numeral after its digits: nothing, or an exponent. -/
def readExponent? : List Char → Option Int
  | [] => some 0
  | c :: cs =>
    if c = 'e' ∨ c = 'E' then
      let (negative, cs) := readSign cs
      match readDigits cs with
      | ([], _) => none
      | (digits, []) =>
        some (if negative then -(digitsValue digits : Int) else digitsValue digits)
      | _ => none
    else none

namespace Numeral

/-- Reads a whole text as a numeral.  There is a digit before or after the
point. -/
def read? (cs : List Char) : Option Numeral :=
  let (negative, cs) := readSign cs
  let (whole, cs) := readDigits cs
  let (fraction, cs) := match cs with
    | '.' :: cs => readDigits cs
    | cs => ([], cs)
  if whole.isEmpty && fraction.isEmpty then none
  else (readExponent? cs).map fun exponent => ⟨negative, whole, fraction, exponent⟩

/-- All digits as one number, and the power of ten of the last one. -/
def coefficient (n : Numeral) : Nat := digitsValue (n.whole ++ n.fraction)
def scale (n : Numeral) : Int := n.exponent - n.fraction.length

/-- The binary64 number nearest to a numeral. -/
def toBinary64 (n : Numeral) : Binary64 :=
  .ofDecimal n.negative n.coefficient n.scale

/-- A numeral written with the scale it has: all its digits, trailing zeros
too, positionally unless the point lies far away. -/
def scaledText (n : Numeral) : String :=
  let digits := Nat.toDigits 10 n.coefficient
  let leading := n.scale + digits.length
  let text :=
    if n.scale ≤ 0 ∧ -6 < leading then
      match leading with
      | .ofNat 0 => '0' :: '.' :: digits
      | .ofNat k =>
        if k < digits.length then digits.take k ++ '.' :: digits.drop k else digits
      | .negSucc k => '0' :: '.' :: (List.replicate (k + 1) '0' ++ digits)
    else
      let mantissa := match digits with
        | d :: e :: rest => d :: '.' :: e :: rest
        | short => short
      let exponent := leading - 1
      mantissa ++ 'E' :: (if exponent < 0 then '-' else '+') :: Nat.toDigits 10 exponent.natAbs
  String.ofList (if n.negative then '-' :: text else text)

end Numeral

/-! ### Numbers in cells -/

/-- The number a cell's text stands for: a numeral between blanks whose value
does not overflow. -/
def readNumber? (s : String) : Option Binary64 :=
  match Numeral.read? (strip s.toList) with
  | none => none
  | some n => if n.toBinary64.isFinite then some n.toBinary64 else none

/-! ### Numbers in settings -/

/-- White space around a setting's number; the separator controls do not
count. -/
def isNumberBlank (c : Char) : Bool :=
  isBlank c && !(0x1C ≤ c.toNat && c.toNat ≤ 0x1F)

/-- A setting's number without the white space around it. -/
def stripNumber (cs : List Char) : List Char :=
  ((cs.dropWhile isNumberBlank).reverse.dropWhile isNumberBlank).reverse

/-- Takes out the underscores, each of which must stand between two digits. -/
def dropGrouping? (afterDigit : Bool) : List Char → Option (List Char)
  | [] => some []
  | '_' :: cs =>
    match cs with
    | d :: _ =>
      if afterDigit && (digitValue? d).isSome then dropGrouping? false cs else none
    | [] => none
  | c :: cs => (dropGrouping? (digitValue? c).isSome cs).map (c :: ·)

/-- The value of a digit in a base up to sixteen: of any script up to nine, a
letter from there on. -/
def digitIn? (base : Nat) (c : Char) : Option Nat :=
  let value? :=
    if 'a' ≤ c ∧ c ≤ 'f' then some (c.toNat - 87)
    else if 'A' ≤ c ∧ c ≤ 'F' then some (c.toNat - 55)
    else digitValue? c
  value?.filter (· < base)

/-- The letters that name a base behind a zero. -/
def baseLetters : Nat → List Char
  | 2 => ['b', 'B']
  | 8 => ['o', 'O']
  | 16 => ['x', 'X']
  | _ => []

/-- Digits of a base, of which there is at least one, as a number. -/
def natIn? (base : Nat) (cs : List Char) : Option Nat :=
  if cs.isEmpty then none
  else cs.foldlM (fun n c => (digitIn? base c).map (n * base + ·)) 0

/-- The whole number that a text stands for in a base: a sign, perhaps the name
of the base, and digits, between blanks. -/
def readWhole? (base : Nat) (cs : List Char) : Option Int :=
  let (negative, cs) := readSign (stripNumber cs)
  let cs := match cs with
    | '0' :: letter :: rest => if (baseLetters base).contains letter then rest else cs
    | cs => cs
  let cs? := if cs.contains '_' then dropGrouping? false cs else some cs
  (cs?.bind (natIn? base)).map fun n => if negative then -(n : Int) else n

/-- The number of digits that a whole number in base ten begins with, whatever
stands behind them; none count if an underscore is out of place. -/
def leadingDigits (cs : List Char) : Nat :=
  let (_, body) := readSign (stripNumber cs)
  let run := body.takeWhile fun c => (digitValue? c).isSome || c = '_'
  ((dropGrouping? false run).getD []).length

/-- The words for values that have no digits, in any case of their letters. -/
def readNamed? (cs : List Char) : Option Binary64 :=
  let (negative, cs) := readSign cs
  let name := String.ofList (cs.map Char.toLower)
  if name = "inf" ∨ name = "infinity" then some (.infinite negative)
  else if name = "nan" then some .nan
  else none

/-- The number a setting's text stands for. -/
def readReal? (s : String) : Option Binary64 :=
  let cs := stripNumber s.toList
  match dropGrouping? false cs with
  | none => none
  | some cs =>
    match readNamed? cs with
    | some x => some x
    | none => (Numeral.read? cs).map Numeral.toBinary64

end TableQuery
