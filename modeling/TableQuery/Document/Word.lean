/-
TableQuery/Document/Word.lean

What an unquoted word stands for in a settings file.

A word can be nothing, a truth value (`yes` and `no` are among them), a whole
number in base ten, two, eight or sixteen, a real number, a date or a moment;
any other word is text.  A real number needs its point, and an exponent needs
its sign, so `1e3` is text.  Numbers can have parts of sixty, divided by
colons: `1:30` is ninety.

One line feed at the end of a word does not count.
-/
import TableQuery.Document.Stamp

namespace TableQuery.Document

/-- What a node stands for. -/
inductive Tag where
  | nothing
  | flag
  | whole
  | real
  | octets
  | time
  | text
  | list
  | mapping
  /-- A collection of different values. -/
  | distinct
  /-- A sequence of keys with their values. -/
  | pairs
  /-- The key under which other mappings are merged into one. -/
  | merge
  /-- The key of the value that a mapping has as a single value. -/
  | single
  | unknown
  deriving DecidableEq

namespace Tag

/-- How the names of the tags of this format start. -/
def namesStart : String := "tag:yaml.org,2002:"

/-- The names of the tags. -/
def names : List (String × Tag) := [
  ("null", .nothing), ("bool", .flag), ("int", .whole), ("float", .real), ("binary", .octets),
  ("timestamp", .time), ("str", .text), ("seq", .list), ("map", .mapping), ("set", .distinct),
  ("omap", .pairs), ("pairs", .pairs), ("merge", .merge), ("value", .single)]

/-- The tag with this full name. -/
def ofName (name : String) : Tag :=
  ((names.find? fun (ending, _) => namesStart ++ ending = name).map (·.2)).getD .unknown

/-! ### Classes of words -/

/-- The words for nothing and for the truth values. -/
def nothingWords : List String := ["", "~", "null", "Null", "NULL"]
def flagWords : List String := [
  "yes", "Yes", "YES", "no", "No", "NO", "true", "True", "TRUE", "false", "False", "FALSE",
  "on", "On", "ON", "off", "Off", "OFF"]

/-- Digits, grouped by underscores in any way. -/
def isGrouped (base : Nat) (c : Char) : Bool :=
  c = '_' || (c.toNat < 128 && (digitIn? base c).isSome)

/-- The rest of a word after grouped digits, which start with a digit. -/
def afterGrouped? : List Char → Option (List Char)
  | c :: cs => if c.isDigit then some (cs.dropWhile (isGrouped 10)) else none
  | [] => none

/-- A part of sixty: one digit, or two of which the first is below six. -/
def isSixtieth : List Char → Bool
  | [c] => c.isDigit
  | [c, d] => '0' ≤ c && c ≤ '5' && d.isDigit
  | _ => false

/-- Parts of sixty, each behind a colon. -/
def areSixtieths (cs : List Char) : Bool :=
  match cs with
  | ':' :: parts => (parts.splitOn ':').all isSixtieth
  | _ => false

/-- Whether a word is a whole number. -/
def isWhole (cs : List Char) : Bool :=
  match (readSign cs).2 with
  | '0' :: 'b' :: digits => !digits.isEmpty && digits.all (isGrouped 2)
  | '0' :: 'x' :: digits => !digits.isEmpty && digits.all (isGrouped 16)
  | '0' :: digits => digits.all (isGrouped 8)
  | digits =>
    match afterGrouped? digits with
    | some rest => rest.isEmpty || areSixtieths rest
    | none => false

/-- An exponent with a sign, or nothing. -/
def isExponent : List Char → Bool
  | [] => true
  | e :: sign :: digits =>
    (e = 'e' || e = 'E') && (sign = '+' || sign = '-') && !digits.isEmpty && digits.all Char.isDigit
  | _ => false

/-- Whether a word is a real number. -/
def isReal (cs : List Char) : Bool :=
  let body := (readSign cs).2
  match body with
  | '.' :: fraction =>
    ["inf", "Inf", "INF"].contains (String.ofList fraction) ||
      (body.length = cs.length && (["nan", "NaN", "NAN"].contains (String.ofList fraction) ||
        (afterGrouped? fraction).any isExponent))
  | _ =>
    match afterGrouped? body with
    | some ('.' :: fraction) => isExponent (fraction.dropWhile (isGrouped 10))
    | some rest =>
      areSixtieths (rest.takeWhile (· ≠ '.')) &&
        (rest.dropWhile (· ≠ '.')).head? = some '.' &&
        (rest.dropWhile (· ≠ '.')).tail.all (isGrouped 10)
    | none => false

/-- What a word stands for. -/
def ofWord (text : String) : Tag :=
  let all := text.toList
  let cs := if 1 < all.length && all.getLast? = some '\n' then all.dropLast else all
  let word := String.ofList cs
  if nothingWords.contains word then .nothing
  else if flagWords.contains word then .flag
  else if isReal cs then .real
  else if isWhole cs then .whole
  else if (Stamp.read? cs).any (!·.isShort) then .time
  else if word = "<<" then .merge
  else if word = "=" then .single
  else if ["!", "&", "*"].contains word then .unknown
  else .text

end Tag

end TableQuery.Document
