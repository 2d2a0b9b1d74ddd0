/-
TableQuery/History.lean

The history: the questions asked so far, each with the answer that was shown.

An exchange keeps its question as it was asked, white space apart
(`normalizeQuestion`), and the file and the sheet that were active then.  A
history only grows at its end and is only ever cleared as a whole, so its
exchanges are in the order of the questions.

An exchange that was asked here holds texts (`Exchange.asked`).  One that was
read back holds whatever was saved, except for its time.
-/
import TableQuery.Json
import TableQuery.Text.Blank
import TableQuery.Time.Moment

namespace TableQuery

open Text

/-- A question that is stripped and has its words divided by single spaces; a
question that is not there has no words. -/
def normalizeQuestion : Option String → String
  | none => ""
  | some q => String.ofList (List.intercalate [' '] (words (strip q.toList)))

/-- A question and the answer shown for it. -/
structure Exchange where
  query : Json
  response : Json
  time : Moment
  /-- The file that was active, if there was one. -/
  fileName : Json
  /-- The sheet that was active, if there was one. -/
  sheetName : Json

/-- The exchange of a question that was asked. -/
def Exchange.asked (query response : String) (time : Moment) (fileName sheetName : Option String) :
    Exchange :=
  ⟨.text query, .text response, time, .ofName fileName, .ofName sheetName⟩

/-- The exchanges so far, the oldest first. -/
structure History where
  exchanges : List Exchange := []

namespace History

/-- Adds an exchange at the end. -/
def add (h : History) (e : Exchange) : History := ⟨h.exchanges ++ [e]⟩

/-- Forgets every exchange. -/
def clear (_ : History) : History := {}

/-- Whether there is no exchange. -/
def isEmpty (h : History) : Bool := h.exchanges.isEmpty

@[simp] theorem exchanges_add (h : History) (e : Exchange) :
    (h.add e).exchanges = h.exchanges ++ [e] := rfl

@[simp] theorem exchanges_clear (h : History) : h.clear.exchanges = [] := rfl

end History

end TableQuery
