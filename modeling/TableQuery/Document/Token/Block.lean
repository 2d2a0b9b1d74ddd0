/-
TableQuery/Document/Token/Block.lean

Block text: the indented lines below a bar or an angle bracket.

A bar keeps the line ends, an angle bracket folds them between lines that do
not start with white space.  Behind the mark may stand a digit for the depth
of the lines and a sign for the line ends after the last of them: by default
one is kept, a minus drops it, a plus keeps them all.  Without a digit the
first line that is not empty gives the depth.
-/
import TableQuery.Document.Token.Label

namespace TableQuery.Document

/-! ### The mark -/

/-- What becomes of the line ends after the last line. -/
inductive Chomping where
  | keepOne
  | dropAll
  | keepAll
  deriving DecidableEq

/-- How block text is to be read. -/
structure BlockStyle where
  folded : Bool
  chomping : Chomping := .keepOne
  /-- The depth of the lines below the block around them, if it is given. -/
  depth : Option Nat := none

/-- The sign behind the mark, if there is one. -/
def readChomping : List Char → Chomping × List Char
  | '+' :: cs => (.keepAll, cs)
  | '-' :: cs => (.dropAll, cs)
  | cs => (.keepOne, cs)

/-- The digit behind the mark, if there is one. -/
def readDepth : List Char → Option Nat × List Char
  | [] => (none, [])
  | c :: cs => if c.isDigit then (some (c.toNat - 48), cs) else (none, c :: cs)

/-- The rest of the line with the mark.  Digit and sign stand in any order. -/
def readBlockStyle (folded : Bool) (cs : List Char) : Except DocumentError (Taken BlockStyle) := do
  let (before, rest) := readChomping cs
  let (depth, rest) := readDepth rest
  let (chomping, rest) := if before = .keepOne then readChomping rest else (before, rest)
  if depth = some 0 || !atSpace rest then .error .malformed
  else .ok (⟨folded, chomping, depth⟩, ← skipLineEnd rest)

/-! ### The lines -/

/-- A line with its end; the last line of a text has none. -/
structure BlockLine where
  /-- The text from the start of the line on. -/
  start : List Char
  content : List Char
  ending : Option Char

namespace BlockLine

/-- The lines of a text. -/
def all : List Char → List BlockLine
  | [] => [⟨[], [], none⟩]
  | c :: cs =>
    if isBreak c then ⟨c :: cs, [], some (lineFeed c)⟩ :: all cs
    else
      match all cs with
      | line :: rest => { line with start := c :: cs, content := c :: line.content } :: rest
      | [] => []

/-- The number of spaces that a line starts with. -/
def spaces (l : BlockLine) : Nat := (l.content.takeWhile (· = ' ')).length

/-- Whether a line holds nothing but spaces. -/
def isBare (l : BlockLine) : Bool := l.content.all (· = ' ')

/-- The depth that the first lines give: that of the first with a text, or of
a longer empty line before it. -/
def givenDepth : List BlockLine → Nat
  | [] => 0
  | l :: rest => if l.isBare && l.ending.isSome then max l.spaces (givenDepth rest) else l.spaces

end BlockLine

/-- What lies between the last line that was read and the next. -/
structure BlockGap where
  /-- The end of the last line; none at the end of the text. -/
  ending : Option Char
  /-- Whether the last line starts with white space. -/
  indented : Bool

/-- What the gap between two lines becomes, before the ends of empty lines. -/
def BlockGap.text (folded : Bool) (empty : List Char) (next : List Char) (g : BlockGap) :
    List Char :=
  if folded && g.ending = some '\n' && !g.indented && !next.head?.any isSpacing then
    if empty.isEmpty then [' '] else []
  else g.ending.toList

/-- Reads lines of this depth after a gap, if there is one, and the ends of
`empty` lines; the text is in order. -/
def readLines (style : BlockStyle) (depth : Nat) (gap : Option BlockGap) (empty : List Char) :
    List BlockLine → Taken (List Char)
  | [] => (closing gap empty, [])
  | l :: rest =>
    match l.ending with
    | some c =>
      if l.isBare && l.spaces ≤ depth then readLines style depth gap (empty ++ [c]) rest
      else if depth ≤ l.spaces then line l rest
      else stop l
    | none =>
      if depth ≤ l.spaces && depth < l.content.length then line l rest else stop l
where
  /-- The line ends after the last line. -/
  closing (gap : Option BlockGap) (empty : List Char) : List Char :=
    (if style.chomping = .dropAll then [] else (gap.bind (·.ending)).toList) ++
      (if style.chomping = .keepAll then empty else [])
  stop (l : BlockLine) : Taken (List Char) :=
    (closing gap empty, l.start.drop (min l.spaces depth))
  line (l : BlockLine) (rest : List BlockLine) : Taken (List Char) :=
    let content := l.content.drop depth
    let before := (gap.map (·.text style.folded empty content)).getD []
    let after := readLines style depth (some ⟨l.ending, content.head?.any isSpacing⟩) [] rest
    (before ++ empty ++ content ++ after.1, after.2)

/-- Block text, after its mark, in a block with this margin. -/
def readBlock (folded : Bool) (margin : Nat) (cs : List Char) :
    Except DocumentError (Taken (List Char)) := do
  let (style, rest) ← readBlockStyle folded cs
  let lines := BlockLine.all rest
  let least := max margin 1
  let depth := match style.depth with
    | some depth => least + depth - 1
    | none => max least (BlockLine.givenDepth lines)
  .ok (readLines style depth none [] lines)

end TableQuery.Document
