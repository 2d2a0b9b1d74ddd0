/-
TableQuery/History/Export.lean

The export of a history: a JSON document in ASCII.

The document is a list with one object for each exchange, which holds the
question, the answer and the time, in this order.
-/
import TableQuery.History

namespace TableQuery

/-- The exported object of an exchange. -/
def Exchange.exported (e : Exchange) : Json :=
  .object [("query", e.query), ("response", e.response), ("timestamp", .text e.time.isoText)]

namespace History

/-- The characters of the export. -/
def exportedChars (h : History) : List Char :=
  (Json.list (h.exchanges.map Exchange.exported)).written 0

/-- The export of a history. -/
def exported (h : History) : String := String.ofList h.exportedChars

end History

/-- A file offered for download. -/
structure Download where
  data : String
  fileName : String
  mediaType : String
  deriving DecidableEq

/-- The export as a file. -/
def History.download (h : History) : Download :=
  ⟨h.exported, "sheet-chat-history.json", "application/json"⟩

end TableQuery
