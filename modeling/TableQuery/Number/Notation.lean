/-
TableQuery/Number/Notation.lean

How numbers are written.

Design.  A binary64 number has three written forms.  `plain` is the form of a
value on its own: the fewest digits that identify it, laid out positionally
for moderate sizes and with an exponent otherwise.  `Binary64.fixed` is the
form inside a summary line: a set number of places of the exact value, a half
going to the even digit.  A whole value can also be written as the whole
number it is, with all its digits.

The decisions of the plain form are one record, `Layout`, so that the form
itself is a single value, `plainLayout`.

Scope.  Every whole number has a text, however long it is.  A host can be set to
refuse the texts of numbers of more than `digitLimit` digits, also inside a
message; this is taken for a setting of the host, like the depth of its stack,
and no text here depends on it.  Reading is different: what is read in base ten
keeps to the limit, since there a number that is too long is a fault of the
input like any other.
-/
import TableQuery.Number.Shortest

namespace TableQuery

/-! ### Layout of digits -/

/-- Where the point goes: the decisions of a written decimal. -/
structure Layout where
  /-- The least exponent of the leading digit that is still written positionally. -/
  positionalFrom : Int
  /-- The least exponent from which on the exponent form is used. -/
  positionalBelow : Int
  /-- The least number of digits of a written exponent. -/
  exponentDigits : Nat

/-- Plain numbers are positional from 10^-4 up to below 10^16, and exponents
have at least two digits. -/
def plainLayout : Layout where
  positionalFrom := -4
  positionalBelow := 16
  exponentDigits := 2

/-- Digits with zeros in front, up to a width. -/
def padZeros (width : Nat) (digits : List Char) : List Char :=
  List.replicate (width - digits.length) '0' ++ digits

/-- The decimal digits of a natural number, at least `width` of them. -/
def digitsPadded (width n : Nat) : List Char :=
  padZeros width (Nat.toDigits 10 n)

/-- Digits without the zeros at their end, but at least one digit. -/
def dropTrailingZeros : List Char → List Char
  | [] => []
  | d :: ds =>
    match dropTrailingZeros ds with
    | [] => [d]
    | ['0'] => [d]
    | rest => d :: rest

/-- A positive decimal in this layout.  A positional whole number keeps one
zero after the point. -/
def Layout.write (layout : Layout) (d : Decimal) : List Char :=
  let all := Nat.toDigits 10 d.digits
  let leading : Int := all.length + d.exponent - 1
  let digits := dropTrailingZeros all
  if layout.positionalFrom ≤ leading ∧ leading < layout.positionalBelow then
    match leading with
    | .negSucc e => '0' :: '.' :: (List.replicate e '0' ++ digits)
    | .ofNat e =>
      let whole := digits.take (e + 1)
      let fraction := digits.drop (e + 1)
      whole ++ List.replicate (e + 1 - digits.length) '0' ++
        '.' :: (if fraction.isEmpty then ['0'] else fraction)
  else
    let mantissa := match digits with
      | d :: e :: rest => d :: '.' :: e :: rest
      | short => short
    let sign := if leading < 0 then '-' else '+'
    mantissa ++ 'e' :: sign :: digitsPadded layout.exponentDigits leading.natAbs

/-! ### The written forms -/

/-- The decimal digits of an integer, all of them, with a minus sign if
negative. -/
def integerText (n : Int) : String :=
  String.ofList ((if n < 0 then ['-'] else []) ++ Nat.toDigits 10 n.natAbs)

/-- The most digits of a whole number in base ten, where there is a limit. -/
def digitLimit : Nat := 4300

/-- The message for a number of too many digits. -/
def tooLongText (digits : Nat) : String :=
  "Exceeds the limit (" ++ integerText digitLimit ++
    " digits) for integer string conversion: value has " ++ integerText digits ++
    " digits; use sys.set_int_max_str_digits() to increase the limit"

namespace Binary64

/-- A minus sign in front of the text of a negative number. -/
def withSign (negative : Bool) (text : List Char) : String :=
  String.ofList (if negative then '-' :: text else text)

/-- The texts of values that have no digits. -/
def infinityText : List Char := "inf".toList
def nanText : String := "nan"

/-- The plain written form: the fewest digits that identify the value, with
a point or an exponent. -/
def plain : Binary64 → String
  | .finite negative units _ =>
    withSign negative
      (if units = 0 then "0.0".toList else plainLayout.write (Decimal.shortest units))
  | .infinite negative => withSign negative infinityText
  | .nan => nanText

/-- The written form with a set number of places, a half of the exact value
going to the even digit. -/
def fixed (places : Nat) : Binary64 → String
  | .finite negative units _ =>
    let scaled := digitsPadded (places + 1) (roundQuotient (units * Nat.pow 10 places) unitsPerOne)
    let cut := scaled.length - places
    withSign negative (scaled.take cut ++ '.' :: scaled.drop cut)
  | .infinite negative => withSign negative infinityText
  | .nan => nanText

/-- The whole number a whole value is; otherwise the plain written form. -/
def brief (x : Binary64) : String :=
  match x.isWhole, x.truncate? with
  | true, some n => integerText n
  | _, _ => x.plain

end Binary64

end TableQuery
