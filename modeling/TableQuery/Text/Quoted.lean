/-
TableQuery/Text/Quoted.lean

How a message quotes a name.

A name stands between single quotes, or between double quotes if it holds a
single quote and no double one.  The quote in use and the backslash are
written behind a backslash, and so are the line feed, the carriage return and
the tab, by their letters; any other character that is not printable is
written by its code point, in two, four or eight hexadecimal digits.
-/
import TableQuery.Text.Printable

namespace TableQuery.Text

/-- The hexadecimal digits of a code point behind a backslash and a letter
that says how many there are. -/
def escapeCode (n : Nat) : List Char :=
  let (letter, width) := if n < 0x100 then ('x', 2) else if n < 0x10000 then ('u', 4) else ('U', 8)
  let digits := Nat.toDigits 16 n
  '\\' :: letter :: (List.replicate (width - digits.length) '0' ++ digits)

/-- One character between quotes. -/
def quoteChar (mark c : Char) : List Char :=
  if c = mark ∨ c = '\\' then ['\\', c]
  else if c = '\n' then ['\\', 'n']
  else if c = '\r' then ['\\', 'r']
  else if c = '\t' then ['\\', 't']
  else if isPrintable c then [c]
  else escapeCode c.toNat

/-- The quote that a text is written with. -/
def quoteMark (cs : List Char) : Char :=
  if cs.contains '\'' && !cs.contains '"' then '"' else '\''

/-- A name between quotes. -/
def quoted (s : String) : String :=
  let mark := quoteMark s.toList
  String.ofList (mark :: s.toList.flatMap (quoteChar mark) ++ [mark])

/-- Written items between brackets. -/
def bracketed (items : List String) : String :=
  "[" ++ ", ".intercalate items ++ "]"

/-- A list of names, each between quotes. -/
def quotedList (names : List String) : String :=
  bracketed (names.map quoted)

end TableQuery.Text
