/-
TableQuery/Number/Stepwise.lean

Numbers in columns of text.

A column of texts is a column of numbers if each text is one.  Such a text is
read digit by digit: every digit multiplies by ten and adds, and the power of
ten comes last, each step rounded on its own.  So the value can differ from
the nearest number in its last bit.  At most 17 digits count; further digits
only move the point.

White space may stand around the number, and an infinity may be named if
nothing stands around it.
-/
import TableQuery.Number.Numeral

namespace TableQuery

/-- The number in a text: its value, and the whole number that is written if
neither point nor exponent is. -/
structure StepwiseNumber where
  value : Binary64
  whole? : Option Int

namespace StepwiseNumber

/-- The number of digits that count. -/
def maxDigits : Nat := 17

/-- White space around a number. -/
def isSpace (c : Char) : Bool :=
  c = ' ' || (0x09 ≤ c.toNat && c.toNat ≤ 0x0D)

/-- Digits added up, each step rounded. -/
def accumulate (digits : List Char) : Binary64 :=
  digits.foldl (fun x d => (x.mul (.ofInt 10)).add (.ofInt (d.toNat - 48 : Nat))) (.zero false)

/-- A number times a power of ten, which is rounded before. -/
def shift (x : Binary64) : Int → Binary64
  | .ofNat e => if 308 < e then x.mul (.infinite false) else x.mul (.ofInt (Nat.pow 10 e : Nat))
  | .negSucc e =>
    let e := e + 1
    if 308 < e then
      if 616 < e then .zero false
      else (x.div (.ofInt (Nat.pow 10 (e - 308) : Nat))).div (.ofInt (Nat.pow 10 308 : Nat))
    else x.div (.ofInt (Nat.pow 10 e : Nat))

/-- The exponent behind the digits, if there is one, and what follows it. -/
def readExponent? : List Char → Option (Option Int × List Char)
  | [] => some (none, [])
  | c :: cs =>
    if c = 'e' || c = 'E' then
      let (negative, cs) := readSign cs
      let digits := cs.takeWhile Char.isDigit
      if digits.isEmpty || maxDigits < digits.length then none
      else
        let n : Int := digitsValue (digits.map fun d => d.toNat - 48)
        some (some (if negative then -n else n), cs.drop digits.length)
    else some (none, c :: cs)

/-- Reads digits with a point and an exponent. -/
def readDigits? (cs : List Char) : Option StepwiseNumber := do
  let (negative, cs) := readSign (cs.dropWhile isSpace)
  let whole := cs.takeWhile Char.isDigit
  let rest := cs.drop whole.length
  let pointed := rest.head? = some '.'
  let fraction := if pointed then rest.tail.takeWhile Char.isDigit else []
  let rest := if pointed then rest.tail.drop fraction.length else rest
  if whole.isEmpty && fraction.isEmpty then none
  else
    let keptFraction := fraction.take (maxDigits - whole.length)
    let (exponent, rest) ← readExponent? rest
    if !(rest.dropWhile isSpace).isEmpty then none
    else
      let digits := whole.take maxDigits ++ keptFraction
      let moved : Int := (whole.length - maxDigits : Nat) - (keptFraction.length : Int)
      let magnitude := shift (accumulate digits) (moved + exponent.getD 0)
      let n : Int := digitsValue (whole.map fun d => d.toNat - 48)
      match magnitude with
      | .finite .. =>
        some {
          value := if negative then magnitude.negate else magnitude
          whole? := if pointed || exponent.isSome then none else some (if negative then -n else n) }
      | _ => none

/-- The number in a text. -/
def read? (s : String) : Option StepwiseNumber :=
  match readDigits? s.toList with
  | some n => some n
  | none =>
    match readNamed? s.toList with
    | some (.infinite negative) => some ⟨.infinite negative, none⟩
    | _ => none

end StepwiseNumber

end TableQuery
