/-
TableQuery/Sheet/Column.lean

The values of a column, brought to one kind.

Values of a column that are all numbers, truth values, texts of numbers or
absent become numbers of one kind: whole ones, or real ones if one is real or
absent, since no other kind has room for absence.  A column of truth values
alone keeps them.  A whole number too large to be signed next to a negative or
an absent one fits no kind; such a column is left alone (`Column.unifyNumbers?`).

In any other column the texts that stand for nothing become absent, and equal
values become the one that came first.  If only truth values and their names
are left then, they are all truth values (`Column.unifyWords`).
-/
import TableQuery.Datum
import TableQuery.Number.Stepwise

namespace TableQuery.Column

/-! ### Columns of numbers -/

/-- The texts that stand for nothing. -/
def absentWords : List String :=
  ["", "#N/A", "#N/A N/A", "#NA", "-1.#IND", "-1.#QNAN", "-NaN", "-nan", "1.#IND", "1.#QNAN",
   "<NA>", "N/A", "NA", "NULL", "NaN", "None", "n/a", "nan", "null"]

/-- The bounds of whole numbers: the signed ones lie from minus the half to
below the half, the unsigned ones below the full range. -/
def signedBound : Int := 9223372036854775808
def unsignedBound : Int := 18446744073709551616

/-- A value that can stand in a column of numbers. -/
inductive Entry where
  | absent
  | truth (value : Bool)
  /-- A whole number in range, with the real number it becomes. -/
  | whole (value : Int) (real : Binary64)
  | real (value : Binary64)

namespace Entry

/-- Whether a whole number has a place in a column of whole numbers. -/
def inRange (n : Int) : Bool := -signedBound ≤ n && n < unsignedBound

/-- The entry of a value, if it can stand in a column of numbers. -/
def of? : Datum → Option Entry
  | .boolean b => some (.truth b)
  | .integer n => some (if inRange n then .whole n (.ofInt n) else .real (.ofInt n))
  | .real x => some (if x.isNaN then .absent else .real x)
  | .text s =>
    if absentWords.contains s then some .absent
    else do
      let n ← StepwiseNumber.read? s
      match n.whole? with
      | none => some (.real n.value)
      | some w => if inRange w then some (.whole w n.value) else none
  | _ => none

def isAbsent : Entry → Bool
  | .absent => true
  | _ => false

def isReal : Entry → Bool
  | .real _ => true
  | _ => false

def isWhole : Entry → Bool
  | .whole .. => true
  | _ => false

def isNegative : Entry → Bool
  | .whole n _ => n < 0
  | _ => false

/-- Whether this is a whole number that only unsigned ones can be. -/
def isUnsigned : Entry → Bool
  | .whole n _ => signedBound ≤ n
  | _ => false

/-- An entry as a real number. -/
def asReal : Entry → Datum
  | .absent => .missing
  | .truth b => .real (.ofInt (if b then 1 else 0))
  | .whole _ x => .real x
  | .real x => .real x

/-- An entry as a whole number. -/
def asWhole : Entry → Datum
  | .truth b => .integer (if b then 1 else 0)
  | .whole n _ => .integer n
  | entry => entry.asReal

/-- An entry as a truth value. -/
def asTruth : Entry → Datum
  | .truth b => .boolean b
  | entry => entry.asReal

end Entry

/-- The values of a column of numbers, if it is one. -/
def unifyNumbers? (values : List Datum) : Option (List Datum) := do
  let entries ← values.mapM Entry.of?
  if entries.any Entry.isUnsigned && (entries.any Entry.isNegative || entries.any Entry.isAbsent) then
    some values
  else if entries.any Entry.isReal || entries.any Entry.isAbsent then some (entries.map Entry.asReal)
  else if entries.any Entry.isWhole then some (entries.map Entry.asWhole)
  else some (entries.map Entry.asTruth)

/-! ### Other columns -/

/-- The names of the truth values. -/
def truthOfName? (s : String) : Option Bool :=
  if ["True", "TRUE", "true"].contains s then some true
  else if ["False", "FALSE", "false"].contains s then some false
  else none

/-- A value, absent if it stands for nothing. -/
def dropAbsent : Datum → Datum
  | .text s => if absentWords.contains s then .missing else .text s
  | .real .nan => .missing
  | d => d

/-- Each value as the first one that is equal to it; `seen` are the values
before, each once. -/
def shareEqual (seen : List (Datum.KeyForm × Datum)) : List Datum → List Datum
  | [] => []
  | d :: ds =>
    match seen.lookup d.keyForm with
    | some first => first :: shareEqual seen ds
    | none => d :: shareEqual ((d.keyForm, d) :: seen) ds

/-- A value as a truth value or absent, if it is one of these or the name of
one. -/
def asTruth? : Datum → Option Datum
  | .missing => some .missing
  | .boolean b => some (.boolean b)
  | .text s => (truthOfName? s).map .boolean
  | _ => none

/-- The values of a column that holds other things than numbers. -/
def unifyWords (values : List Datum) : List Datum :=
  let values := shareEqual [] (values.map dropAbsent)
  (values.mapM asTruth?).getD values

/-- The values of a column, brought to one kind if there is one. -/
def unify (values : List Datum) : List Datum :=
  (unifyNumbers? values).getD (unifyWords values)

end TableQuery.Column
