/-
TableQuery/Text/Lowercase.lean

Lower-casing of a whole text.

Design.  Almost every letter is lower-cased on its own, by the table of runs.
Two letters are not: the capital I with a dot becomes two characters, and the
capital sigma depends on where it stands.  At the end of a word (after a cased
letter and not before one, looking through accents and the like) it becomes
the final sigma.  So lower-casing carries one bit along the text: whether the
nearest character that is not looked through was a cased letter.
-/
import TableQuery.Text.CaseContext
import TableQuery.Text.CaseRuns

namespace TableQuery.Text

/-- The lower case of one character; `endsWord` says whether a sigma here
would end a word. -/
def lowerChar (endsWord : Bool) (c : Char) : List Char :=
  if c = 'Σ' then [if endsWord then 'ς' else 'σ']
  else if c = 'İ' then ['i', '\u0307']
  else [Char.ofNat (lowerCodePoint caseRuns c.toNat)]

/-- Whether the first character that is not looked through is a cased letter. -/
def startsCased : List Char → Bool
  | [] => false
  | c :: cs => if isCaseIgnorable c then startsCased cs else isCased c

/-- Lower-cases the rest of a text; `afterCased` says whether a cased letter
stands before it. -/
def lowerFrom (afterCased : Bool) : List Char → List Char
  | [] => []
  | c :: cs =>
    lowerChar (afterCased && !startsCased cs) c ++
      lowerFrom (if isCaseIgnorable c then afterCased else isCased c) cs

/-- The lower case of a text. -/
def lower (cs : List Char) : List Char :=
  lowerFrom false cs

/-- The lower case of a string. -/
def lowercase (s : String) : String :=
  String.ofList (lower s.toList)

end TableQuery.Text
