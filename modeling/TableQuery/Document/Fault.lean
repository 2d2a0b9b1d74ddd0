/-
TableQuery/Document/Fault.lean

Why a settings file cannot be read.

Nearly all faults are of form, and one message serves them all.  The rest are
words that ask for a kind of value and are none: a number without digits, a
day that does not exist.  These have messages of their own, which do not name
the file.
-/
import TableQuery.Time.Moment

namespace TableQuery

/-- Why a settings file cannot be read. -/
inductive DocumentError where
  /-- The text is not of the form of a document. -/
  | malformed
  /-- No character has this code. -/
  | noCharacter (code : Nat)
  /-- The text is no whole number in this base. -/
  | notWhole (base : Nat) (text : String)
  /-- The number has more digits than are read in base ten. -/
  | tooLong (digits : Nat)
  /-- The text is no real number. -/
  | notReal (text : String)
  /-- A number is expected and there is not one character. -/
  | emptyNumber
  /-- The word, in lower case, is no truth value. -/
  | notFlag (word : String)
  /-- The text is no date or moment. -/
  | notTime
  /-- The date or moment does not exist. -/
  | time (error : TimeError)
  deriving DecidableEq

/-- The first code that does not fit a word of 31 bits. -/
def DocumentError.codeBound : Nat := 0x80000000

/-- The message for this file. -/
def DocumentError.message (file : String) : DocumentError → String
  | .malformed => "Invalid YAML in " ++ file
  | .noCharacter code =>
    if code < codeBound then "chr() arg not in range(0x110000)"
    else "Python int too large to convert to C int"
  | .notWhole base text =>
    "invalid literal for int() with base " ++ integerText base ++ ": " ++ Text.quoted text
  | .tooLong digits => tooLongText digits
  | .notReal text => "could not convert string to float: " ++ Text.quoted text
  | .emptyNumber => "string index out of range"
  | .notFlag word => word
  | .notTime => "'NoneType' object has no attribute 'groupdict'"
  | .time error => error.message

end TableQuery
