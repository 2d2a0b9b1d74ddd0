/-
TableQuery/Answer/Display.lean

How an answer is shown.

An answer is shown as plain text or as markdown.  Both hold the same table of
at most a given number of rows; in markdown the bars inside cells are escaped
and the lines of the summary become a list.  The limit of rows is a setting
and may be negative, which leaves out that many rows from the end.
-/
import TableQuery.Answer
import TableQuery.Frame
import TableQuery.Text.Lines

namespace TableQuery

open Text

/-- The first elements of a list up to a limit; a negative limit counts from
the end. -/
def takeUpTo {α : Type} (limit : Int) (xs : List α) : List α :=
  match limit with
  | .ofNat n => xs.take n
  | .negSucc n => xs.take (xs.length - (n + 1))

/-- A text with every bar behind a backslash. -/
def escapeBars (s : String) : String :=
  String.ofList (s.toList.flatMap fun c => if c = '|' then ['\\', '|'] else [c])

namespace Answer

/-- How the question was read, in one line. -/
def describe (a : Answer) : String :=
  let intent := "intent: " ++ ", ".intercalate a.intent.labels
  let filter := a.filter.toList.map fun f => "filter: " ++ f.describe
  let sort := a.sort.toList.map fun s => "sort: " ++ s.describe
  "; ".intercalate (intent :: filter ++ sort)

/-- The line that counts the rows. -/
def header (a : Answer) : String :=
  "Found " ++ integerText a.rowCount ++ " matching " ++ (if a.rowCount = 1 then "row" else "rows")

/-- One line of a table. -/
def tableLine (fields : List String) : String :=
  "| " ++ " | ".intercalate fields ++ " |"

/-- The lines of the table, each field written by `field`, with a note of the
rows that are not shown. -/
def tableLines (a : Answer) (maxRows : Int) (field : String → String) : List String :=
  let shown := takeUpTo maxRows a.rows
  let rows := shown.map fun r => tableLine (a.columns.map fun c => field (r.row.cell c).shown)
  let note :=
    if maxRows < a.rowCount then ["... " ++ integerText (a.rowCount - maxRows) ++ " more rows"]
    else []
  tableLine (a.columns.map field) ::
    ("|" ++ "|".intercalate (a.columns.map fun _ => " --- ") ++ "|") :: rows ++ note

/-- The rows as a frame, up to a limit if there is one. -/
def frame (a : Answer) (maxRows : Option Int) : Frame :=
  .ofRows a.columns (match maxRows with
    | none => a.rows
    | some limit => takeUpTo limit a.rows)

/-- The number of rows shown unless another is asked for. -/
def usualMaxRows : Int := 20

/-- The text for an answer without rows. -/
def noMatchText : String := "No matching data found."

/-- The answer as plain text. -/
def plainText (a : Answer) (maxRows : Int) : String :=
  if a.noData then a.summaryText
  else if a.rows.isEmpty then noMatchText
  else
    let summary := if a.summaryText = "" then "No summary" else a.summaryText
    "\n".intercalate
      ([a.header, ""] ++ a.tableLines maxRows id ++ ["", "Summary:", summary])

/-- The lines of the summary as a list. -/
def summaryBullets (a : Answer) : List String :=
  (lines a.summaryText.toList).map fun line => "- " ++ String.ofList line

/-- The answer as markdown. -/
def markdown (a : Answer) (maxRows : Int) : String :=
  if a.noData then "_" ++ a.summaryText ++ "_"
  else if a.rows.isEmpty then "_" ++ noMatchText ++ "_"
  else
    let summary :=
      if a.summaryText = "" then [] else ["", "**Summary**", ""] ++ a.summaryBullets
    "\n".intercalate
      (["**" ++ a.header ++ "** (" ++ a.describe ++ ")", ""] ++
        a.tableLines maxRows escapeBars ++ summary)

end Answer

end TableQuery
