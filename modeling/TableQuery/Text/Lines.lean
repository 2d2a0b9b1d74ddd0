/-
TableQuery/Text/Lines.lean

The lines of a text.  A line ends at a line feed, a carriage return (or the
two together), a vertical tab, a form feed, one of the separator controls
U+001C to U+001E, the next-line control, or the Unicode line and paragraph
separators.  A line end at the very end opens no further line.
-/
import TableQuery.Text.Blank

namespace TableQuery.Text

/-- The characters that end a line. -/
def lineEndRanges : List (Nat × Nat) := [
  (0xA, 0xD), (0x1C, 0x1E), (0x85, 0x85), (0x2028, 0x2029)]

/-- Whether a character ends a line. -/
def isLineEnd (c : Char) : Bool :=
  inRanges lineEndRanges c.toNat

/-- The lines of a text, without their ends. -/
def lines : List Char → List (List Char)
  | [] => []
  | '\r' :: '\n' :: cs => [] :: lines cs
  | c :: cs => if isLineEnd c then [] :: lines cs else joinFirst c (lines cs)

end TableQuery.Text
