/-
TableQuery/Text/Escaped.lean

Texts as JSON strings, in ASCII.

A quote, a backslash and five control characters have short escapes; every
other character outside the printable ASCII range is written by its UTF-16
units, each in four lower-case hexadecimal digits.  A character beyond the
basic plane has two units, a high and a low surrogate.
-/

namespace TableQuery.Text

/-- The UTF-16 units of a character. -/
def units16 (c : Char) : List Nat :=
  let n := c.toNat
  if n < 0x10000 then [n]
  else [0xD800 + (n - 0x10000) / 0x400, 0xDC00 + (n - 0x10000) % 0x400]

/-- The lower-case hexadecimal digit of a number below sixteen. -/
def hexDigit (n : Nat) : Char :=
  Char.ofNat (if n < 10 then 48 + n else 87 + n)

/-- A unit behind `\u`, in four digits. -/
def escapeUnit (n : Nat) : List Char :=
  ['\\', 'u', hexDigit (n / 4096 % 16), hexDigit (n / 256 % 16), hexDigit (n / 16 % 16),
    hexDigit (n % 16)]

/-- One character of a JSON string. -/
def escapeChar (c : Char) : List Char :=
  if c = '"' then ['\\', '"']
  else if c = '\\' then ['\\', '\\']
  else if c = '\n' then ['\\', 'n']
  else if c = '\r' then ['\\', 'r']
  else if c = '\t' then ['\\', 't']
  else if c = '\x08' then ['\\', 'b']
  else if c = '\x0c' then ['\\', 'f']
  else if 0x20 ≤ c.toNat ∧ c.toNat < 0x7F then [c]
  else (units16 c).flatMap escapeUnit

/-- A text as a JSON string, with its quotes. -/
def escaped (cs : List Char) : List Char :=
  '"' :: cs.flatMap escapeChar ++ ['"']

end TableQuery.Text
