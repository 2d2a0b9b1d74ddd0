/-
TableQuery/Text/Blank.lean

White space, and the two things it is for: the ends of a text that `strip`
removes, and the words that `words` finds between it.

The class is that of Unicode 14, with the four separator controls U+001C to
U+001F; the zero-width characters are not white space.
-/
import TableQuery.Text.CodeRange

namespace TableQuery.Text

/-- The white space characters. -/
def blankRanges : List (Nat × Nat) := [
  (0x9, 0xD), (0x1C, 0x20), (0x85, 0x85), (0xA0, 0xA0), (0x1680, 0x1680), (0x2000, 0x200A),
  (0x2028, 0x2029), (0x202F, 0x202F), (0x205F, 0x205F), (0x3000, 0x3000)]

/-- Whether a character is white space. -/
def isBlank (c : Char) : Bool :=
  inRanges blankRanges c.toNat

/-- The text without the white space at both ends. -/
def strip (cs : List Char) : List Char :=
  ((cs.dropWhile isBlank).reverse.dropWhile isBlank).reverse

/-- Puts a character in front of the first piece of a divided text. -/
def joinFirst (c : Char) : List (List Char) → List (List Char)
  | [] => [[c]]
  | piece :: pieces => (c :: piece) :: pieces

/-- The words of a text: its maximal runs without white space. -/
def words : List Char → List (List Char)
  | [] => []
  | [c] => if isBlank c then [] else [[c]]
  | c :: d :: cs =>
    if isBlank c then words (d :: cs)
    else if isBlank d then [c] :: words (d :: cs)
    else joinFirst c (words (d :: cs))

/-- Whether a text has no character but white space. -/
def allBlank (cs : List Char) : Bool :=
  cs.all isBlank

end TableQuery.Text
