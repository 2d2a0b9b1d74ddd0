/-
TableQuery/Summary.lean

Summaries of rows.

Design.  A summary has two parts per column.  Statistics cover the cells that
have a number, and only those; the others are left out, not counted as zero.
A distribution counts the texts of all cells, absent ones as empty text, and
is given only for columns of few distinct texts.  Each part has its line of
text; a column that is named twice has its lines twice.

All numbers are binary64: totals are added in row order, an average is the
total by the count, and a percentage is the exact quotient, each rounded
once.
-/
import TableQuery.Question.Settings
import TableQuery.Rows.Arrangement
import TableQuery.Table

namespace TableQuery

/-! ### Statistics -/

/-- Statistics over the numbers of one column, of which there is at least
one. -/
structure ColumnStats where
  column : String
  count : Nat
  minimum : Binary64
  maximum : Binary64
  total : Binary64
  deriving DecidableEq

namespace ColumnStats

/-- The mean of the numbers. -/
def average (s : ColumnStats) : Binary64 :=
  s.total.divCount s.count

/-- The line of a column's statistics. -/
def line (s : ColumnStats) : String :=
  s.column ++ ": Min=" ++ s.minimum.fixed 2 ++ ", Max=" ++ s.maximum.fixed 2 ++
    ", Avg=" ++ s.average.fixed 2

end ColumnStats

/-- The numbers in a column, in row order. -/
def columnNumbers (rows : List Row) (column : String) : List Binary64 :=
  rows.filterMap fun row => (row.cell column).number?

/-- The first of the least numbers. -/
def leastOf (first : Binary64) (others : List Binary64) : Binary64 :=
  others.foldl (fun least x => if x.less least then x else least) first

/-- The first of the greatest numbers. -/
def greatestOf (first : Binary64) (others : List Binary64) : Binary64 :=
  others.foldl (fun greatest x => if greatest.less x then x else greatest) first

/-- The total, added from the first number to the last. -/
def totalOf (numbers : List Binary64) : Binary64 :=
  numbers.foldl Binary64.add (.zero false)

/-- The statistics of a column, if it has a number. -/
def columnStats? (rows : List Row) (column : String) : Option ColumnStats :=
  match columnNumbers rows column with
  | [] => none
  | x :: xs => some {
      column
      count := xs.length + 1
      minimum := leastOf x xs
      maximum := greatestOf x xs
      total := totalOf (x :: xs) }

/-! ### Distributions -/

/-- How often a text occurs in a column. -/
structure Frequency where
  value : String
  count : Nat
  percentage : Binary64
  deriving DecidableEq

/-- A text with its count and share. -/
def Frequency.entry (f : Frequency) : String :=
  f.value ++ ": " ++ integerText f.count ++ " (" ++ f.percentage.fixed 1 ++ "%)"

/-- The distinct texts of a column with their counts, in order of first
appearance. -/
def tally (texts : List String) : List (String × Nat) :=
  texts.foldl (fun counts t => setNamed t ((getNamed? t counts).getD 0 + 1) counts) []

/-- The most frequent texts; of equally frequent ones the earlier first. -/
def mostFrequent (limit : Int) (counts : List (String × Nat)) : List (String × Nat) :=
  (arrange (fun a b => b.2 < a.2) counts).take limit.toNat

/-- The distribution of a column, unless it has too many distinct texts. -/
def distribution? (limits : Limits) (rows : List Row) (column : String) :
    Option (List Frequency) :=
  let counts := tally (rows.map fun row => (row.cell column).plainText)
  if limits.distinctTexts < counts.length then none
  else some <| (mostFrequent limits.listedTexts counts).map fun (value, count) =>
    ⟨value, count, .ofQuotient false (100 * count) rows.length⟩

/-- The line of a column's distribution. -/
def distributionLine (column : String) (entries : List Frequency) : String :=
  column ++ " distribution: " ++ ", ".intercalate (entries.map (·.entry))

/-! ### Summaries -/

/-- The lines of a summary and the numbers behind them. -/
structure Summary where
  totalRows : Nat
  numeric : List ColumnStats
  /-- The columns that have a distribution, each once. -/
  categorical : List (String × List Frequency)
  lines : List String
  deriving DecidableEq

namespace Summary

/-- A summary that was not called for. -/
def silent (totalRows : Nat) : Summary := ⟨totalRows, [], [], []⟩

def text (s : Summary) : String := "\n".intercalate s.lines

def isEmpty (s : Summary) : Bool := s.lines.isEmpty

/-- A summary is made on request, and unasked for answers of many rows. -/
def isDue (limits : Limits) (rowCount : Nat) (requested : Bool) : Bool :=
  requested || limits.summaryRows < rowCount

/-- The summary of some rows; it is empty when it is not due or there are no
rows. -/
def ofRows (limits : Limits) (columns : List String) (requested : Bool) (rows : List Row) :
    Summary :=
  if rows.isEmpty || !isDue limits rows.length requested then silent rows.length
  else
    let numeric := columns.filterMap (columnStats? rows)
    let distributions := columns.filterMap fun column =>
      (distribution? limits rows column).map (column, ·)
    { totalRows := rows.length
      numeric
      categorical := distributions.foldl (fun all (column, d) => setNamed column d all) []
      lines := ("Total rows: " ++ integerText rows.length) :: numeric.map (·.line) ++
        distributions.map fun (column, d) => distributionLine column d }

end Summary

end TableQuery
