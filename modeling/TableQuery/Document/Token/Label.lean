/-
TableQuery/Document/Token/Label.lean

The tokens that label nodes, and directives.

An anchor or alias has a name.  A tag is written out between angle brackets,
or is a handle and a text behind it: `!name` has the handle `!`, `!!name` the
handle `!!`, `!own!name` the handle `!own!`.  The exclamation mark alone is a
tag, too.  Inside the text of a tag, octets of UTF-8 can stand for characters,
each by two hexadecimal digits behind a percent sign.
-/
import TableQuery.Document.Token
import TableQuery.Number.Numeral

namespace TableQuery.Document

/-! ### Names -/

/-- The characters, besides gaps, that can follow the name of an anchor. -/
def nameEnds : List Char := ['?', ':', ',', ']', '\x7d', '%', '@', '\x60']

/-- The name of an anchor or alias. -/
def readName (cs : List Char) : Except DocumentError (Taken String) :=
  let name := cs.takeWhile isNameChar
  let rest := cs.dropWhile isNameChar
  if name.isEmpty then .error .malformed
  else if rest.head?.all fun c => isGap c || nameEnds.contains c then .ok (String.ofList name, rest)
  else .error .malformed

/-! ### Tags -/

/-- The characters of the text of a tag, but for the percent sign. -/
def isTagChar (c : Char) : Bool :=
  c.isAlphanum || "-;/?:@&=+$,_.!~*'()[]".toList.contains c

/-- The characters that octets stand for. -/
def ofOctets? (octets : List Nat) : Option (List Char) :=
  (String.fromUTF8? ⟨(octets.map UInt8.ofNat).toArray⟩).map String.toList

/-- The text of a tag, after `octets` that are not yet characters; both are
held backwards. -/
def readTagText (octets : List Nat) (text : List Char) : List Char →
    Except DocumentError (Taken (List Char))
  | '%' :: a :: b :: cs =>
    match digitIn? 16 a, digitIn? 16 b with
    | some high, some low =>
      if a.toNat < 128 && b.toNat < 128 then readTagText ((16 * high + low) :: octets) text cs
      else .error .malformed
    | _, _ => .error .malformed
  | cs =>
    match ofOctets? octets.reverse with
    | none => .error .malformed
    | some decoded =>
      let text := decoded.reverse ++ text
      match cs with
      | [] => .ok (text.reverse, [])
      | c :: rest =>
        if c = '%' then .error .malformed
        else if isTagChar c then readTagText [] (c :: text) rest
        else .ok (text.reverse, c :: rest)

/-- The text of a tag, which is not empty. -/
def tagText (cs : List Char) : Except DocumentError (Taken String) := do
  let (text, rest) ← readTagText [] [] cs
  if text.isEmpty then .error .malformed else .ok (String.ofList text, rest)

/-- A handle: one exclamation mark before a space, otherwise a name, perhaps
empty, between two. -/
def readHandle : List Char → Except DocumentError (Taken String)
  | '!' :: cs =>
    if cs.head? = some ' ' then .ok ("!", cs)
    else
      match cs.dropWhile isNameChar with
      | '!' :: rest => .ok (String.ofList ('!' :: cs.takeWhile isNameChar ++ ['!']), rest)
      | _ => .error .malformed
  | _ => .error .malformed

/-- Handle and text of a tag, after its exclamation mark. -/
def readTagParts (cs : List Char) : Except DocumentError (Taken (Option String × String)) :=
  match cs with
  | '<' :: cs => do
    let (text, rest) ← tagText cs
    match rest with
    | '>' :: rest => .ok ((none, text), rest)
    | _ => .error .malformed
  | cs =>
    if atGap cs then .ok ((none, "!"), cs)
    else do
      let word := cs.takeWhile fun c => !(c = ' ' || isBreak c)
      let (handle, rest) ← if word.contains '!' then readHandle ('!' :: cs) else .ok ("!", cs)
      let (text, rest) ← tagText rest
      .ok ((some handle, text), rest)

/-- A tag, after its exclamation mark. -/
def readTag (cs : List Char) : Except DocumentError (Taken Token) := do
  let ((handle, text), rest) ← readTagParts cs
  if atSpace rest then .ok (.tag handle text, rest) else .error .malformed

/-! ### Directives -/

/-- The digits of a version number. -/
def readVersionPart (cs : List Char) : Except DocumentError (Taken Nat) :=
  let digits := cs.takeWhile Char.isDigit
  if digits.isEmpty then .error .malformed
  else .ok (digitsValue (readDigits digits).1, cs.dropWhile Char.isDigit)

/-- The two numbers of a version, of which the first is kept. -/
def readVersion (cs : List Char) : Except DocumentError (Taken Directive) := do
  let (major, rest) ← readVersionPart (cs.dropWhile (· = ' '))
  match rest with
  | '.' :: rest => do
    let (_, rest) ← readVersionPart rest
    .ok (.version major, rest)
  | _ => .error .malformed

/-- A handle and what it stands for. -/
def readHandleMeaning (cs : List Char) : Except DocumentError (Taken Directive) := do
  let (name, rest) ← readHandle (cs.dropWhile (· = ' '))
  if rest.head? = some ' ' then
    let (meaning, rest) ← tagText (rest.dropWhile (· = ' '))
    .ok (.handle name meaning, rest)
  else .error .malformed

/-- A directive, after its percent sign, with the rest of its line. -/
def readDirective (cs : List Char) : Except DocumentError (Taken Token) := do
  let name := String.ofList (cs.takeWhile isNameChar)
  let rest := cs.dropWhile isNameChar
  if name = "" || !atSpace rest then .error .malformed
  else
    let (directive, rest) ←
      if name = "YAML" then readVersion rest
      else if name = "TAG" then readHandleMeaning rest
      else .ok (.other, rest.dropWhile (!isBreak ·))
    if atSpace rest then .ok (.directive directive, ← skipLineEnd rest) else .error .malformed

end TableQuery.Document
