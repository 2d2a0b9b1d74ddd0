/-
TableQuery/Document/Token/Quotation.lean

Text between quotes.

Between single quotes, a quote is written twice and nothing else is special.
Between double quotes, a backslash starts an escape: a letter for a control
or a separator, a code in two, four or eight hexadecimal digits, or the end of
the line, which then does not count.  Two codes that are the halves of one
character make that character.  In both, spaces around line ends are
dropped and the line ends folded; a document divider must not occur.
-/
import TableQuery.Document.Token
import TableQuery.Number.Numeral

namespace TableQuery.Document

/-- The characters behind a backslash, and what they stand for. -/
def escapes : List (Char × Char) := [
  ('0', '\x00'), ('a', '\x07'), ('b', '\x08'), ('t', '\t'), ('\t', '\t'), ('n', '\n'),
  ('v', '\x0b'), ('f', '\x0c'), ('r', '\r'), ('e', '\x1b'), (' ', ' '), ('"', '"'), ('/', '/'),
  ('\\', '\\'), ('N', '\x85'), ('_', '\xa0'), ('L', '\u2028'), ('P', '\u2029')]

/-- The number of hexadecimal digits behind a letter that announces a code. -/
def codeLengths : List (Char × Nat) := [('x', 2), ('u', 4), ('U', 8)]

/-- Whether two codes are the halves of one character. -/
def areHalves (high low : Nat) : Bool :=
  0xD800 ≤ high && high < 0xDC00 && 0xDC00 ≤ low && low < 0xE000

/-- The character with this code; a half without its other half is replaced. -/
def ofCode (code : Nat) : Char :=
  if code.isValidChar then Char.ofNat code else '\ufffd'

/-- The characters with these codes. -/
def ofCodes : List Nat → List Char
  | [] => []
  | [code] => [ofCode code]
  | high :: low :: codes =>
    if areHalves high low then
      Char.ofNat (0x10000 + (high - 0xD800) * 0x400 + (low - 0xDC00)) :: ofCodes codes
    else ofCode high :: ofCodes (low :: codes)

/-- What has been read since the last character of the text. -/
inductive QuotedGap where
  | nothing
  /-- A backslash. -/
  | escape
  /-- The start of a code, of which this many digits are still to come. -/
  | code (left value : Nat)
  /-- Spaces and tabs, backwards. -/
  | spacing (seen : List Char)
  /-- The end of a line, unless it does not count, and the ends of the empty
  lines after it, backwards. -/
  | lines (first : Option Char) (more : List Char)

/-- What a gap becomes inside the text, backwards. -/
def QuotedGap.chars : QuotedGap → List Char
  | .spacing seen => seen
  | .lines (some first) more => (foldedBreaks first more.reverse).reverse
  | .lines none more => more
  | _ => []

/-- The codes of what a gap becomes, backwards. -/
def QuotedGap.codes (gap : QuotedGap) : List Nat := gap.chars.map Char.toNat

/-- The gap after one more space or tab. -/
def QuotedGap.afterSpacing (gap : QuotedGap) (c : Char) : QuotedGap :=
  match gap with
  | .spacing seen => .spacing (c :: seen)
  | .lines first more => .lines first more
  | _ => .spacing [c]

/-- The gap after one more line end. -/
def QuotedGap.afterBreak (gap : QuotedGap) (c : Char) : QuotedGap :=
  match gap with
  | .lines first more => .lines first (lineFeed c :: more)
  | _ => .lines (some (lineFeed c)) []

/-- Reads a text up to the quote that ends it, after a gap; the codes that have
been read are held backwards. -/
def readQuoted (quote : Char) (gap : QuotedGap) (codes : List Nat) :
    List Char → Except DocumentError (Taken (List Char))
  | [] => .error .malformed
  | c :: cs =>
    match gap with
    | .code left value =>
      if c.toNat < 128 then
        match digitIn? 16 c with
        | none => .error .malformed
        | some digit =>
          let value := 16 * value + digit
          if 1 < left then readQuoted quote (.code (left - 1) value) codes cs
          else if value < 0x110000 then readQuoted quote .nothing (value :: codes) cs
          else .error (.noCharacter value)
      else .error .malformed
    | .escape =>
      if isBreak c then
        if isDivider cs then .error .malformed else readQuoted quote (.lines none []) codes cs
      else
        match codeLengths.lookup c, escapes.lookup c with
        | some left, _ => readQuoted quote (.code left 0) codes cs
        | none, some plain => readQuoted quote .nothing (plain.toNat :: codes) cs
        | none, none => .error .malformed
    | gap =>
      if isSpacing c then readQuoted quote (gap.afterSpacing c) codes cs
      else if isBreak c then
        if isDivider cs then .error .malformed else readQuoted quote (gap.afterBreak c) codes cs
      else
        let codes := gap.codes ++ codes
        if c = quote then
          match cs with
          | d :: rest =>
            if c = '\'' && d = '\'' then readQuoted quote .nothing (c.toNat :: codes) rest
            else .ok (ofCodes codes.reverse, d :: rest)
          | [] => .ok (ofCodes codes.reverse, [])
        else if c = '\\' && quote = '"' then readQuoted quote .escape codes cs
        else readQuoted quote .nothing (c.toNat :: codes) cs

end TableQuery.Document
