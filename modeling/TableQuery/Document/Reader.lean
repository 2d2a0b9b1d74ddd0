/-
TableQuery/Document/Reader.lean

Reading a settings file.

The text is divided into tokens, the tokens make the nodes of one document,
and the document has a value.  All ends of lines count alike, carriage returns
among them.  A text with a character that cannot be printed is no settings
file, whatever else is in it, and a fault of form counts before one of a
value.
-/
import TableQuery.Document.Meaning
import TableQuery.Document.Node.Grammar
import TableQuery.Document.Token.Lexer

namespace TableQuery.Document

/-- The characters that a settings file can hold. -/
def allowedRanges : List (Nat × Nat) := [
  (0x9, 0xA), (0xD, 0xD), (0x20, 0x7E), (0x85, 0x85), (0xA0, 0xD7FF), (0xE000, 0xFFFD),
  (0x10000, 0x10FFFF)]

/-- A text with line feeds for carriage returns, and for the two together. -/
def unifyReturns : List Char → List Char
  | [] => []
  | '\r' :: '\n' :: cs => '\n' :: unifyReturns cs
  | c :: cs => (if c = '\r' then '\n' else c) :: unifyReturns cs

/-- The value that a settings file holds; nothing if it is empty. -/
def read (text : String) : Except DocumentError Datum := do
  let cs := unifyReturns text.toList
  if !cs.all fun c => Text.inRanges allowedRanges c.toNat then throw .malformed
  match ← Node.ofTokens (Token.all cs) with
  | none => return .missing
  | some root => root.datum

end TableQuery.Document
