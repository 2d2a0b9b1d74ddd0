/-
TableQuery/Document/Token.lean

The tokens of a settings file, and the character classes that divide them.

Blocks have no marks of their own in the text: where one starts and ends
follows from the indentation, and tokens say so (`blockMapping`, `blockEnd`).
A text that cannot be divided further ends with the token `broken`, which
carries the reason; it matters only to a reader who gets that far.
-/
import TableQuery.Document.Fault

namespace TableQuery.Document

/-- A line in front of a document that says how to read it. -/
inductive Directive where
  /-- The version of the format. -/
  | version (major : Nat)
  /-- What a handle stands for in tags. -/
  | handle (name meaning : String)
  /-- Any other, which says nothing. -/
  | other
  deriving DecidableEq

/-- The tokens. -/
inductive Token where
  | directive (value : Directive)
  | documentStart
  | documentEnd
  | streamEnd
  | blockSequence
  | blockMapping
  | blockEnd
  | blockEntry
  | flowSequence
  | flowSequenceEnd
  | flowMapping
  | flowMappingEnd
  | flowEntry
  | key
  | value
  | alias (name : String)
  | anchor (name : String)
  /-- A tag with its handle; none if the tag is written out. -/
  | tag (handle : Option String) (text : String)
  /-- A text; a plain one stands without quotes. -/
  | scalar (text : String) (plain : Bool)
  /-- The end of what can be divided into tokens. -/
  | broken (error : DocumentError)
  deriving DecidableEq

/-- What was read, and the rest of the text. -/
abbrev Taken (α : Type) := α × List Char

/-! ### Characters -/

/-- The characters that end a line. -/
def isBreak (c : Char) : Bool :=
  c = '\n' || c = '\x85' || c = '\u2028' || c = '\u2029'

/-- How the end of a line reads inside a text: all but the two separators are
line feeds. -/
def lineFeed (c : Char) : Char := if c = '\x85' then '\n' else c

/-- Spaces and tabs. -/
def isSpacing (c : Char) : Bool := c = ' ' || c = '\t'

/-- The characters between words. -/
def isGap (c : Char) : Bool := isSpacing c || isBreak c

/-- Whether a word ends here. -/
def atGap (cs : List Char) : Bool := cs.head?.all isGap

/-- Whether a space, the end of the line or the end of the text comes next.
Unlike in `atGap`, a tab does not count. -/
def atSpace (cs : List Char) : Bool := cs.head?.all fun c => c = ' ' || isBreak c

/-- Whether the line that starts here divides documents: three dashes or three
points, and then a gap. -/
def isDivider : List Char → Bool
  | '-' :: '-' :: '-' :: cs => atGap cs
  | '.' :: '.' :: '.' :: cs => atGap cs
  | _ => false

/-- The characters of the names of anchors, handles and directives. -/
def isNameChar (c : Char) : Bool := c.isAlphanum || c = '-' || c = '_'

/-- What the end of a line inside a text turns into, with the ends of the empty
lines that follow it: a space, or one line feed less. -/
def foldedBreaks (first : Char) (more : List Char) : List Char :=
  if first ≠ '\n' then first :: more
  else if more.isEmpty then [' '] else more

/-- Passes over the end of a line on which nothing may stand any more but a
comment. -/
def skipLineEnd (cs : List Char) : Except DocumentError (List Char) :=
  let cs := cs.dropWhile (· = ' ')
  let cs := if cs.head? = some '#' then cs.dropWhile (!isBreak ·) else cs
  match cs with
  | [] => .ok []
  | c :: cs => if isBreak c then .ok cs else .error .malformed

end TableQuery.Document
