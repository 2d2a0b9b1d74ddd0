/-
TableQuery/Sheet/Name.lean

Names of sheets and of columns, made distinct.

A sheet whose name another one has, whatever the case of the letters, gets the
next number behind its name.  A column whose name another one has gets a
number behind a point; columns that have a name of their own come first in
this, so they keep it where they can.
-/
import TableQuery.Datum
import TableQuery.Text.Lowercase

namespace TableQuery

open Text

/-! ### Names of sheets -/

namespace SheetName

/-- The characters that no sheet has in its name. -/
def forbidden : List Char := ['\\', '*', '?', ':', '/', '[', ']']

/-- The name of a sheet that is given none. -/
def usual : String := "Sheet"

/-- What follows a text that starts with another one. -/
def afterStart? : List Char → List Char → Option (List Char)
  | [], cs => some cs
  | _ :: _, [] => none
  | a :: as, c :: cs => if a = c then afterStart? as cs else none

/-- The numbers that stand behind a name in a text; `skipped` characters belong
to the last one found. -/
def numbersBehind (name : List Char) (skipped : Nat) : List Char → List Nat
  | [] => []
  | c :: cs =>
    match skipped with
    | skipped + 1 => numbersBehind name skipped cs
    | 0 =>
      match afterStart? name (c :: cs) with
      | none => numbersBehind name 0 cs
      | some rest =>
        let digits := (readDigits rest).1
        digitsValue digits :: numbersBehind name (name.length + digits.length - 1) cs

/-- A name that no earlier sheet has. -/
def distinct (earlier : List String) (name : String) : String :=
  let name := if name = "" then usual else name
  let lower := lowercase name
  if (earlier.map lowercase).contains lower then
    let numbers := numbersBehind lower.toList 0 (",".intercalate (earlier.map lowercase)).toList
    name ++ integerText ((numbers.foldl max 0 : Nat) + 1)
  else name

/-- The names of sheets, made distinct in order. -/
def distinctAll (names : List String) : List String :=
  names.foldl (fun earlier name => earlier ++ [distinct earlier name]) []

end SheetName

/-! ### Names of columns -/

namespace ColumnName

/-- The name of a column that has none, by its place. -/
def ofPlace (i : Nat) : Datum := .text ("Unnamed: " ++ integerText i)

/-- The first number behind a name, from `k` on, that gives a name not among
these; `tries` bounds the search. -/
def freeNumber (names : List Datum) (base : String) : Nat → Nat → Nat
  | 0, k => k
  | tries + 1, k =>
    if names.any (Datum.sameKey (.text (base ++ "." ++ integerText k))) then
      freeNumber names base tries (k + 1)
    else k

/-- Names with the number that each goes on with. -/
structure Numbered where
  names : List Datum
  next : List (Datum.KeyForm × Nat) := []

/-- Gives the column at a place a name that no column before it has. -/
def Numbered.settle (s : Numbered) (i : Nat) : Numbered :=
  match s.names[i]? with
  | none => s
  | some name =>
    match s.next.lookup name.keyForm with
    | none => { s with next := (name.keyForm, 1) :: s.next }
    | some k =>
      let base := name.plainText
      let k := freeNumber s.names base s.names.length k
      let renamed : Datum := .text (base ++ "." ++ integerText k)
      { names := s.names.set i renamed
        next := (renamed.keyForm, 1) :: (name.keyForm, k + 1) :: s.next }

/-- Distinct names for columns, some of which have none of their own. -/
def distinctAll (names : List (Option Datum)) : List Datum :=
  let places := List.range names.length
  let isNamed (i : Nat) : Bool := (names[i]?.getD none).isSome
  let order := places.filter isNamed ++ places.filter (!isNamed ·)
  let start := names.zipIdx.map fun (name, i) => name.getD (ofPlace i)
  (order.foldl Numbered.settle { names := start }).names

end ColumnName

end TableQuery
