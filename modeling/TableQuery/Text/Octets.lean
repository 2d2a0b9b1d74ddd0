/-
TableQuery/Text/Octets.lean

Octets, and their two texts.

A message writes octets like a name between quotes behind a `b`, with the
octets outside the printable ASCII range by their codes.  A file holds them in
base 64, four digits for three octets: other characters count for nothing, a
group that lacks digits is filled up by padding, and what follows the padding
is not read.
-/
import TableQuery.Text.Quoted

namespace TableQuery.Text

/-! ### In messages -/

/-- One octet between quotes. -/
def quoteOctet (mark : Char) (octet : Nat) : List Char :=
  if octet < 0x7F then quoteChar mark (Char.ofNat octet) else escapeCode octet

/-- Octets between quotes. -/
def quotedOctets (octets : List Nat) : String :=
  let mark := quoteMark (octets.map Char.ofNat)
  String.ofList ('b' :: mark :: octets.flatMap (quoteOctet mark) ++ [mark])

/-! ### In base 64 -/

/-- The value of a digit in base 64. -/
def digit64? (c : Char) : Option Nat :=
  if 'A' ≤ c ∧ c ≤ 'Z' then some (c.toNat - 65)
  else if 'a' ≤ c ∧ c ≤ 'z' then some (c.toNat - 71)
  else if '0' ≤ c ∧ c ≤ '9' then some (c.toNat + 4)
  else if c = '+' then some 62
  else if c = '/' then some 63
  else none

/-- Reads octets after `position` digits of a group, with what the last of
them left over, and `pads` padding marks since then.  None if the last group
is not filled up. -/
def readOctets? (position left pads : Nat) : List Char → Option (List Nat)
  | [] => if position = 0 then some [] else none
  | c :: cs =>
    if c = '=' then
      if 2 ≤ position && 4 ≤ position + pads + 1 then some []
      else readOctets? position left (if 2 ≤ position then pads + 1 else pads) cs
    else
      match digit64? c with
      | none => readOctets? position left pads cs
      | some d =>
        match position with
        | 0 => readOctets? 1 d 0 cs
        | 1 => (readOctets? 2 (d % 16) 0 cs).map ((left * 4 + d / 16) :: ·)
        | 2 => (readOctets? 3 (d % 4) 0 cs).map ((left * 16 + d / 4) :: ·)
        | _ => (readOctets? 0 0 0 cs).map ((left * 64 + d) :: ·)

/-- The octets that a text in base 64 stands for. -/
def octets64? (cs : List Char) : Option (List Nat) := readOctets? 0 0 0 cs

end TableQuery.Text
