/-
TableQuery/Document/Token/Plain.lean

Text without quotes.

Such a text goes on over gaps and line ends as long as words follow: it ends
at a colon before a gap, at a comment, at a document divider and, inside
brackets, at the characters that divide items.  In a block it also ends at a
line that is not indented deeper than the block.  Spaces inside a line are
kept, and line ends are folded.
-/
import TableQuery.Document.Token

namespace TableQuery.Document

/-- The characters that divide items between brackets. -/
def flowMarks : List Char := [',', '?', '[', ']', '\x7b', '\x7d']

/-- Where a text without quotes stands. -/
structure PlainPlace where
  /-- Whether it stands between brackets. -/
  inFlow : Bool
  /-- The column from which on a further line belongs to it, in a block. -/
  margin : Nat

/-- Whether a colon is followed by what ends a key. -/
def PlainPlace.endsKey (p : PlainPlace) (cs : List Char) : Bool :=
  cs.head?.all fun c => isGap c || (p.inFlow && (c ≠ '?' && flowMarks.contains c))

/-- Whether no word goes on, or starts, with what comes next. -/
def PlainPlace.stops (p : PlainPlace) : List Char → Bool
  | [] => true
  | c :: cs => isGap c || (c = ':' && p.endsKey cs) || (p.inFlow && flowMarks.contains c)

/-- What has been passed over since the last character of a word. -/
inductive PlainGap where
  | nothing
  | spaces (count : Nat)
  /-- The end of a line, the ends of empty lines after it, backwards, and the
  column on the line that has been reached. -/
  | lines (first : Char) (more : List Char) (column : Nat)

/-- Whether the end of a line has been passed. -/
def PlainGap.crossesLine : PlainGap → Bool
  | .lines .. => true
  | _ => false

/-- What a gap becomes inside the text, backwards. -/
def PlainGap.text : PlainGap → List Char
  | .nothing => []
  | .spaces count => List.replicate count ' '
  | .lines first more _ => (foldedBreaks first more.reverse).reverse

/-- The gap after one more line end. -/
def PlainGap.afterBreak (gap : PlainGap) (c : Char) : PlainGap :=
  match gap with
  | .lines first more _ => .lines first (lineFeed c :: more) 0
  | _ => .lines (lineFeed c) [] 0

/-- A text without quotes. -/
structure Plain where
  text : List Char
  /-- Whether line ends behind the text have been passed over. -/
  crossesLine : Bool
  rest : List Char

/-- Whether the text is at its end, if what comes next is neither a space nor
the end of a line. -/
def PlainPlace.endsAfter (p : PlainPlace) (gap : PlainGap) (cs : List Char) : Bool :=
  match gap with
  | .nothing => p.stops cs
  | .spaces _ => cs.head? = some '#' || p.stops cs
  | .lines _ _ column => cs.head? = some '#' || (!p.inFlow && column < p.margin) || p.stops cs

/-- Reads a text without quotes after a gap; what has been read is held
backwards. -/
def readPlain (p : PlainPlace) (gap : PlainGap) (text : List Char) : List Char → Plain
  | [] => ⟨text.reverse, gap.crossesLine, []⟩
  | c :: cs =>
    if c = ' ' then
      let gap := match gap with
        | .nothing => .spaces 1
        | .spaces count => .spaces (count + 1)
        | .lines first more column => .lines first more (column + 1)
      readPlain p gap text cs
    else if isBreak c then
      if isDivider cs then ⟨text.reverse, true, cs⟩
      else readPlain p (gap.afterBreak c) text cs
    else if p.endsAfter gap (c :: cs) then ⟨text.reverse, gap.crossesLine, c :: cs⟩
    else readPlain p .nothing (c :: (gap.text ++ text)) cs

end TableQuery.Document
