/-
TableQuery/Inquiry.lean

Asking about the table in use.

An inquiry is a question with its answer and the exchange that the history
keeps of it.  The exchange records the answer as markdown, the time, and the
file and the sheet in use.
-/
import TableQuery.Answer.Display
import TableQuery.History
import TableQuery.Shelf

namespace TableQuery

/-- A question with its answer and the exchange to keep. -/
structure Inquiry where
  answer : Answer
  exchange : Exchange

/-- Asks a question about the table in use; the answer shows at most
`maxRows` rows. -/
def Shelf.ask (shelf : Shelf) (settings : QuerySettings) (query : String) (maxRows : Int)
    (time : Moment) : Except QuestionError Inquiry := do
  let answer ← interpret settings (some query) shelf.activeTable?
  return {
    answer
    exchange := .asked query (answer.markdown maxRows) time shelf.selectedFile?
      shelf.selectedSheet? }

end TableQuery
