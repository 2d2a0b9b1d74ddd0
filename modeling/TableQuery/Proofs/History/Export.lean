/-
TableQuery/Proofs/History/Export.lean

The export of a history, read back.

Whatever the texts hold, the export is a JSON document in ASCII, and a reader
finds the question, the answer and the time of each exchange in it, and nothing
else (`read?_exported`).  The file and the sheet of an exchange are not in it,
and of its time only the text, so histories that agree in these three have one
export, and no others have.
-/
import TableQuery.History.Export
import TableQuery.Proofs.Json.Reading

namespace TableQuery

/-- What an export tells of an exchange. -/
def Exchange.told (e : Exchange) : Json × Json × String := (e.query, e.response, e.time.isoText)

/-- The object that tells it. -/
def toldObject (told : Json × Json × String) : Json :=
  .object [("query", told.1), ("response", told.2.1), ("timestamp", .text told.2.2)]

theorem toldObject_injective {told told' : Json × Json × String}
    (h : toldObject told = toldObject told') : told = told' := by
  simp only [toldObject, Json.object.injEq, List.cons.injEq, Prod.mk.injEq, Json.text.injEq,
    true_and, and_true] at h
  exact Prod.ext h.1 (Prod.ext h.2.1 h.2.2)

namespace History

/-- The objects of the export are found from what is told. -/
theorem read?_exported_eq_map (h : History) :
    Json.read? h.exported = some (.list ((h.exchanges.map Exchange.told).map toldObject)) := by
  rw [List.map_map]
  exact Json.read?_written _

/-- Two exports are equal just if they tell the same of the exchanges. -/
theorem exported_inj {h h' : History} :
    h.exported = h'.exported ↔ h.exchanges.map Exchange.told = h'.exchanges.map Exchange.told := by
  constructor
  · intro heq
    have hread := congrArg Json.read? heq
    rw [read?_exported_eq_map, read?_exported_eq_map] at hread
    exact (List.map_inj_right fun _ _ => toldObject_injective).1
      (Json.list.inj (Option.some.inj hread))
  · intro htold
    have hobjects := congrArg (List.map toldObject) htold
    rw [List.map_map, List.map_map] at hobjects
    exact congrArg (fun objects => String.ofList ((Json.list objects).written 0)) hobjects

/-- **The export decodes to the history.**  It is ASCII, its only value is the
list of the exchanges' objects in their order, and two histories have the same
export just if their questions, answers and times are the same. -/
theorem read?_exported (h : History) :
    (∀ c ∈ h.exported.toList, c.toNat < 0x80) ∧
      Json.read? h.exported = some (.list (h.exchanges.map fun e => .object
        [("query", e.query), ("response", e.response), ("timestamp", .text e.time.isoText)])) ∧
      ∀ h' : History, h'.exported = h.exported ↔
        h'.exchanges.map (fun e => (e.query, e.response, e.time.isoText)) =
          h.exchanges.map fun e => (e.query, e.response, e.time.isoText) := by
  have hascii : Text.IsAscii h.exported.toList := by
    rw [exported, String.toList_ofList]
    exact Json.isAscii_written _
  have hread := read?_exported_eq_map h
  rw [List.map_map] at hread
  exact ⟨hascii, hread, fun _ => exported_inj⟩

end History

end TableQuery
