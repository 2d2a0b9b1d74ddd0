/-
TableQuery/Upload.lean

Uploaded files.

The page reports all files that are uploaded every time it runs.  Each upload
has an identity of its own, also when a file of the same name comes again, so
the identities that were seen tell which uploads are new.
-/
import TableQuery.Workbook

namespace TableQuery

/-- An uploaded file. -/
structure Upload where
  name : String
  /-- The identity of this upload. -/
  id : String
  content : FileContent
  /-- The size in bytes. -/
  size : Int

/-- The uploads that were not seen before, in order. -/
def freshUploads (seen : List String) (uploads : List Upload) : List Upload :=
  uploads.filter fun u => !seen.contains u.id

/-- The identities that have been seen once these uploads are too. -/
def markSeen (seen : List String) (uploads : List Upload) : List String :=
  uploads.foldl (fun seen u => seen.insert u.id) seen

/-- An identity has been seen if it was before or is that of an upload. -/
theorem mem_markSeen {id : String} {seen : List String} {uploads : List Upload} :
    id ∈ markSeen seen uploads ↔ id ∈ seen ∨ ∃ u ∈ uploads, u.id = id := by
  induction uploads generalizing seen with
  | nil => simp [markSeen]
  | cons u rest ih =>
    have step : markSeen seen (u :: rest) = markSeen (seen.insert u.id) rest := rfl
    rw [step, ih, List.mem_insert_iff]
    constructor
    · rintro ((h | h) | ⟨v, hv, h⟩)
      · exact .inr ⟨u, by simp, h.symm⟩
      · exact .inl h
      · exact .inr ⟨v, by simp [hv], h⟩
    · rintro (h | ⟨v, hv, h⟩)
      · exact .inl (.inr h)
      · rcases List.mem_cons.1 hv with rfl | hv
        · exact .inl (.inl h.symm)
        · exact .inr ⟨v, hv, h⟩

end TableQuery
