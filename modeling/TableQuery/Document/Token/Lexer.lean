/-
TableQuery/Document/Token/Lexer.lean

Dividing a text into tokens.

Design.  The lexer keeps the margins of the open blocks: a block that starts
at some column has the next column as its margin, so that text at the margin
or beyond is inside it.  Before each token, the blocks are closed whose start
lies right of the token.

A key needs no mark, so it is known as one only when its colon comes.  Until
then its place is pending (`PendingKey`): the colon puts the token `key` in
front of it, and the start of a block, too, if the key is the first of one.
A key that no mark announces stands on one line and has at most 1024
characters.  Where a block demands a key, one that never becomes a key is a
fault.

A fault ends the tokens.  Whatever hangs on a pending key is not decided then,
so the tokens end before the first such place.
-/
import TableQuery.Document.Token.Block
import TableQuery.Document.Token.Plain
import TableQuery.Document.Token.Quotation

namespace TableQuery.Document

/-! ### Places -/

/-- A place in a text. -/
structure TextPlace where
  index : Nat := 0
  line : Nat := 0
  column : Nat := 0
  deriving DecidableEq

/-- The place behind a character.  The byte order mark takes no column. -/
def TextPlace.after (p : TextPlace) (c : Char) : TextPlace :=
  if isBreak c then ⟨p.index + 1, p.line + 1, 0⟩
  else ⟨p.index + 1, p.line, if c = '\ufeff' then p.column else p.column + 1⟩

/-- A place where a key may have started. -/
structure PendingKey where
  /-- The number of tokens before it. -/
  tokens : Nat
  place : TextPlace
  /-- Whether the block demands a key here. -/
  demanded : Bool

/-- The most characters of a key without a mark. -/
def keyLimit : Nat := 1024

/-- Whether a key may still end at a place. -/
def PendingKey.reaches (k : PendingKey) (p : TextPlace) : Bool :=
  k.place.line = p.line && p.index - k.place.index ≤ keyLimit

/-! ### The lexer -/

/-- How far a text has been divided. -/
structure Lexer where
  rest : List Char
  place : TextPlace := {}
  tokens : Array Token := #[]
  /-- The margins of the open blocks, innermost first. -/
  margins : List Nat := []
  /-- The number of open brackets. -/
  depth : Nat := 0
  /-- Whether a key without a mark may start here. -/
  keyAllowed : Bool := true
  /-- The pending keys by the number of brackets around them. -/
  pending : List (Nat × PendingKey) := []

namespace Lexer

/-- The margin of the innermost block. -/
def margin (l : Lexer) : Nat := l.margins.headD 0

def inFlow (l : Lexer) : Bool := l.depth ≠ 0

/-- Goes to where this is the rest of the text. -/
def moveTo (l : Lexer) (rest : List Char) : Lexer :=
  { l with
    rest
    place := (l.rest.take (l.rest.length - rest.length)).foldl TextPlace.after l.place }

def push (l : Lexer) (t : Token) : Lexer := { l with tokens := l.tokens.push t }

/-! ### Pending keys -/

/-- Forgets the pending keys that can be none any more. -/
def dropStale (l : Lexer) : Except DocumentError Lexer :=
  if l.pending.any fun (_, k) => k.demanded && !k.reaches l.place then .error .malformed
  else .ok { l with pending := l.pending.filter fun (_, k) => k.reaches l.place }

/-- Forgets the pending key between these brackets. -/
def dropPending (l : Lexer) : Except DocumentError Lexer :=
  if l.pending.any fun (d, k) => d = l.depth && k.demanded then .error .malformed
  else .ok { l with pending := l.pending.filter fun (d, _) => d ≠ l.depth }

/-- Remembers that a key may start here. -/
def savePending (l : Lexer) : Except DocumentError Lexer :=
  if l.keyAllowed then do
    let l ← l.dropPending
    let key : PendingKey :=
      ⟨l.tokens.size, l.place, !l.inFlow && l.margin = l.place.column + 1⟩
    .ok { l with pending := (l.depth, key) :: l.pending }
  else .ok l

/-! ### Blocks -/

/-- Closes the blocks with a margin beyond the limit. -/
def closeBlocks (limit : Nat) (l : Lexer) : Lexer :=
  if l.inFlow then l
  else
    let closed := l.margins.takeWhile (limit < ·)
    { l with
      margins := l.margins.dropWhile (limit < ·)
      tokens := l.tokens ++ (closed.map fun _ => Token.blockEnd).toArray }

/-- Opens a block here unless it is open already; between brackets there are
no blocks. -/
def openBlock (start : Token) (l : Lexer) : Except DocumentError Lexer :=
  if l.inFlow then .ok l
  else if !l.keyAllowed then .error .malformed
  else if l.margin ≤ l.place.column then
    .ok { l.push start with margins := (l.place.column + 1) :: l.margins }
  else .ok l

/-! ### Single tokens -/

/-- Passes over spaces, comments and line ends; also says whether a line ended. -/
def skipGap (inComment : Bool) : List Char → Bool × List Char
  | [] => (false, [])
  | c :: cs =>
    if isBreak c then (true, (skipGap false cs).2)
    else if inComment || c = '#' then skipGap true cs
    else if c = ' ' then skipGap false cs
    else (false, c :: cs)

/-- A mark of one character. -/
def mark (t : Token) (rest : List Char) (l : Lexer) : Lexer := (l.moveTo rest).push t

/-- A directive or a divider, outside of all blocks. -/
def outside (read : Except DocumentError (Taken Token)) (l : Lexer) :
    Except DocumentError Lexer := do
  let l ← (l.closeBlocks 0).dropPending
  let (t, rest) ← read
  .ok (({ l with keyAllowed := false }.moveTo rest).push t)

/-- The start of a bracketed collection. -/
def openBracket (t : Token) (rest : List Char) (l : Lexer) : Except DocumentError Lexer := do
  let l ← l.savePending
  .ok ({ l with depth := l.depth + 1, keyAllowed := true }.mark t rest)

/-- The end of a bracketed collection. -/
def closeBracket (t : Token) (rest : List Char) (l : Lexer) : Except DocumentError Lexer := do
  let l ← l.dropPending
  .ok ({ l with depth := l.depth - 1, keyAllowed := false }.mark t rest)

/-- A mark after which a key may start if `allowed`. -/
def separate (t : Token) (allowed : Bool) (rest : List Char) (l : Lexer) :
    Except DocumentError Lexer := do
  let l ← { l with keyAllowed := allowed }.dropPending
  .ok (l.mark t rest)

/-- The colon that ends a key. -/
def endKey (rest : List Char) (l : Lexer) : Except DocumentError Lexer := do
  match l.pending.lookup l.depth with
  | some key =>
    let opens := !l.inFlow && l.margin ≤ key.place.column
    let start := if opens then #[Token.blockMapping, .key] else #[.key]
    .ok ({ l with
      tokens := l.tokens.extract 0 key.tokens ++ start ++ l.tokens.extract key.tokens l.tokens.size
      margins := if opens then (key.place.column + 1) :: l.margins else l.margins
      pending := l.pending.filter fun (d, _) => d ≠ l.depth
      keyAllowed := false }.mark .value rest)
  | none => (← l.openBlock .blockMapping).separate .value (!l.inFlow) rest

/-- A token that can be, or start, a key. -/
def label (read : Except DocumentError (Taken Token)) (l : Lexer) :
    Except DocumentError Lexer := do
  let l ← l.savePending
  let (t, rest) ← read
  .ok ({ l with keyAllowed := false }.mark t rest)

/-- A text between quotes. -/
def quotation (quote : Char) (cs : List Char) (l : Lexer) : Except DocumentError Lexer :=
  l.label do
    let (text, rest) ← readQuoted quote .nothing [] cs
    .ok (.scalar (String.ofList text) false, rest)

/-- A text without quotes. -/
def plain (l : Lexer) : Except DocumentError Lexer := do
  let l ← l.savePending
  let p := readPlain ⟨l.inFlow, l.margin⟩ .nothing [] l.rest
  .ok ({ l with keyAllowed := p.crossesLine }.mark (.scalar (String.ofList p.text) true) p.rest)

/-- Block text. -/
def block (folded : Bool) (cs : List Char) (l : Lexer) : Except DocumentError Lexer := do
  let l ← { l with keyAllowed := true }.dropPending
  let (text, rest) ← readBlock folded l.margin cs
  .ok (l.mark (.scalar (String.ofList text) false) rest)

/-- The characters that no text without quotes starts with. -/
def reserved : List Char :=
  [',', '[', ']', '\x7b', '\x7d', '#', '&', '*', '!', '|', '>', '\'', '"', '%', '@', '\x60']

/-- Whether a text without quotes starts here. -/
def startsPlain (l : Lexer) : List Char → Bool
  | [] => false
  | c :: cs =>
    if c = '-' then !atGap cs
    else if c = '?' || c = ':' then !l.inFlow && !atGap cs
    else !isGap c && !reserved.contains c

/-- The token that starts here. -/
def scan (l : Lexer) : Except DocumentError Lexer :=
  let first := l.place.column = 0
  match l.rest with
  | [] => do .ok ((← (l.closeBlocks 0).dropPending).push .streamEnd)
  | c :: cs =>
    if c = '%' && first then l.outside (readDirective cs)
    else if first && isDivider l.rest then
      l.outside (.ok (if c = '-' then .documentStart else .documentEnd, cs.drop 2))
    else if c = '[' then l.openBracket .flowSequence cs
    else if c = '\x7b' then l.openBracket .flowMapping cs
    else if c = ']' then l.closeBracket .flowSequenceEnd cs
    else if c = '\x7d' then l.closeBracket .flowMappingEnd cs
    else if c = ',' then l.separate .flowEntry true cs
    else if c = '-' && atGap cs then do
      (← l.openBlock .blockSequence).separate .blockEntry true cs
    else if c = '?' && (l.inFlow || atGap cs) then do
      (← l.openBlock .blockMapping).separate .key (!l.inFlow) cs
    else if c = ':' && (l.inFlow || atGap cs) then l.endKey cs
    else if c = '*' then l.label do
      let (name, rest) ← readName cs
      .ok (.alias name, rest)
    else if c = '&' then l.label do
      let (name, rest) ← readName cs
      .ok (.anchor name, rest)
    else if c = '!' then l.label (readTag cs)
    else if c = '|' && !l.inFlow then l.block false cs
    else if c = '>' && !l.inFlow then l.block true cs
    else if c = '\'' || c = '"' then l.quotation c cs
    else if l.startsPlain l.rest then l.plain
    else .error .malformed

/-- The next token, and the ends of blocks before it. -/
def next (l : Lexer) : Except DocumentError Lexer := do
  let (lineEnded, rest) := skipGap false l.rest
  let l := l.moveTo rest
  let l := { l with keyAllowed := l.keyAllowed || (lineEnded && !l.inFlow) }
  (← l.dropStale).closeBlocks (l.place.column + 1) |>.scan

/-! ### The whole text -/

/-- The tokens that do not hang on a pending key. -/
def decided (l : Lexer) : Array Token :=
  let undecided := l.pending.filter fun (_, k) => k.reaches l.place
  l.tokens.extract 0 (undecided.foldl (fun n (_, k) => min n k.tokens) l.tokens.size)

/-- Goes on to the end of the text, or for so many tokens. -/
def run : Nat → Lexer → Array Token
  | 0, l => l.tokens
  | steps + 1, l =>
    match l.next with
    | .error e => l.decided.push (.broken e)
    | .ok after => if after.tokens.back? = some .streamEnd then after.tokens else run steps after

end Lexer

/-- The tokens of a text.  Every token but the last uses up a character. -/
def Token.all (cs : List Char) : List Token :=
  let cs := if cs.head? = some '\ufeff' then cs.tail else cs
  (Lexer.run (cs.length + 1) { rest := cs }).toList

end TableQuery.Document
