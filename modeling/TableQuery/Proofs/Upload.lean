/-
TableQuery/Proofs/Upload.lean

Uploads over a series of reports.

Every report names all files that are uploaded at that time, old and new ones.
What is handed out after a report are the uploads that were not seen before, and
then they are seen too.  An upload can leave the reports and come back later; it is
known by its identity all the same, and a file that is uploaded again has a new one.

The invariant is that what has been seen are the identities from the beginning and
those of all reports so far (`mem_seenAfter`).  So a report hands out what no earlier
one named (`getElem?_handedOut`), and over the whole series every identity that was
not seen from the beginning is handed out (`mem_handedOut`), and none twice
(`nodup_handedOut`).  Only the last needs that no single report names an identity
twice: the uploads of one report are compared with what was seen before it.

Main result: `handsOutOnce`.
-/
import Mathlib.Data.List.Nodup
import TableQuery.Upload

namespace TableQuery

/-- The identities of some uploads. -/
def uploadIds (uploads : List Upload) : List String := uploads.map (·.id)

/-- An identity is that of an upload in some report. -/
def Reported (reports : List (List Upload)) (id : String) : Prop :=
  ∃ uploads ∈ reports, id ∈ uploadIds uploads

instance (reports : List (List Upload)) (id : String) : Decidable (Reported reports id) :=
  inferInstanceAs (Decidable (∃ uploads ∈ reports, _))

/-- What has been seen after a report. -/
def takeIn (seen : List String) (uploads : List Upload) : List String :=
  markSeen seen (freshUploads seen uploads)

/-- What has been seen after some reports. -/
def seenAfter (seen : List String) (reports : List (List Upload)) : List String :=
  reports.foldl takeIn seen

/-- What is handed out after each of some reports. -/
def handedOut (seen : List String) : List (List Upload) → List (List Upload)
  | [] => []
  | uploads :: later => freshUploads seen uploads :: handedOut (takeIn seen uploads) later

section Reports

variable {seen : List String} {uploads : List Upload} {reports : List (List Upload)} {id : String}

theorem not_reported_nil : ¬ Reported [] id := by
  rintro ⟨uploads, h, -⟩
  exact List.not_mem_nil h

theorem reported_cons :
    Reported (uploads :: reports) id ↔ id ∈ uploadIds uploads ∨ Reported reports id := by
  simp only [Reported, List.mem_cons, exists_eq_or_imp]

theorem mem_freshUploads {u : Upload} :
    u ∈ freshUploads seen uploads ↔ u ∈ uploads ∧ u.id ∉ seen := by
  rw [freshUploads, List.mem_filter, Bool.not_eq_true', List.contains_eq_mem, decide_eq_false_iff_not]

theorem mem_uploadIds_freshUploads :
    id ∈ uploadIds (freshUploads seen uploads) ↔ id ∈ uploadIds uploads ∧ id ∉ seen := by
  simp only [uploadIds, List.mem_map, mem_freshUploads]
  constructor
  · rintro ⟨u, ⟨hu, hseen⟩, rfl⟩
    exact ⟨⟨u, hu, rfl⟩, hseen⟩
  · rintro ⟨⟨u, hu, rfl⟩, hseen⟩
    exact ⟨u, ⟨hu, hseen⟩, rfl⟩

/-! ### One report -/

/-- A report adds its identities to what has been seen. -/
theorem mem_takeIn : id ∈ takeIn seen uploads ↔ id ∈ seen ∨ id ∈ uploadIds uploads := by
  have hfresh : (∃ u ∈ freshUploads seen uploads, u.id = id) ↔
      id ∈ uploadIds uploads ∧ id ∉ seen :=
    List.mem_map.symm.trans mem_uploadIds_freshUploads
  rw [takeIn, mem_markSeen, hfresh]
  by_cases hseen : id ∈ seen
  · exact iff_of_true (.inl hseen) (.inl hseen)
  · exact or_congr_right (and_iff_left hseen)

/-! ### A series of reports -/

/-- **What has been seen** are the identities from the beginning and those that were
reported. -/
theorem mem_seenAfter : id ∈ seenAfter seen reports ↔ id ∈ seen ∨ Reported reports id := by
  induction reports generalizing seen with
  | nil => exact (or_iff_left not_reported_nil).symm
  | cons uploads later ih =>
    show id ∈ seenAfter (takeIn seen uploads) later ↔ _
    rw [ih, mem_takeIn, reported_cons, or_assoc]

/-- **A report hands out** what was neither seen from the beginning nor named by an
earlier report, in its own order. -/
theorem getElem?_handedOut (seen : List String) (reports : List (List Upload)) (k : Nat) :
    (handedOut seen reports)[k]? = reports[k]?.map fun uploads =>
      uploads.filter fun u => u.id ∉ seen ∧ ¬ Reported (reports.take k) u.id := by
  induction reports generalizing seen k with
  | nil => rfl
  | cons uploads later ih =>
    cases k with
    | zero =>
      refine congrArg some (List.filter_congr fun u _ => ?_)
      rw [Bool.eq_iff_iff, Bool.not_eq_true', List.contains_eq_mem, decide_eq_false_iff_not,
        decide_eq_true_eq]
      exact (and_iff_left not_reported_nil).symm
    | succ k =>
      -- what the first report brings counts as seen in all later ones
      show (handedOut (takeIn seen uploads) later)[k]? = later[k]?.map _
      rw [ih]
      refine congrArg (later[k]?.map ·) (funext fun _ => List.filter_congr fun u _ => ?_)
      rw [Bool.eq_iff_iff, decide_eq_true_eq, decide_eq_true_eq, List.take_succ_cons, mem_takeIn,
        reported_cons, not_or, not_or, and_assoc]

/-- Over a series, the identities that are handed out are those that are reported and
were not seen from the beginning. -/
theorem mem_handedOut :
    id ∈ uploadIds (handedOut seen reports).flatten ↔ id ∉ seen ∧ Reported reports id := by
  induction reports generalizing seen with
  | nil => exact iff_of_false List.not_mem_nil (mt And.right not_reported_nil)
  | cons uploads later ih =>
    rw [handedOut, List.flatten_cons, uploadIds, List.map_append, List.mem_append]
    show id ∈ uploadIds _ ∨ id ∈ uploadIds _ ↔ _
    rw [mem_uploadIds_freshUploads, ih, mem_takeIn, reported_cons, not_or]
    -- an identity of this report is fresh, whether or not a later report names it
    by_cases hhere : id ∈ uploadIds uploads
    · simp only [hhere, true_and, not_true_eq_false, and_false, false_and, or_false, true_or,
        and_true]
    · simp only [hhere, false_and, false_or, not_false_eq_true, and_true]

/-- No identity is handed out twice. -/
theorem nodup_handedOut (h : ∀ uploads ∈ reports, (uploadIds uploads).Nodup) :
    (uploadIds (handedOut seen reports).flatten).Nodup := by
  induction reports generalizing seen with
  | nil => exact List.nodup_nil
  | cons uploads later ih =>
    obtain ⟨hhere, hlater⟩ := List.forall_mem_cons.1 h
    have hfresh : (uploadIds (freshUploads seen uploads)).Nodup :=
      hhere.sublist (List.filter_sublist.map _)
    rw [handedOut, List.flatten_cons, uploadIds, List.map_append]
    refine hfresh.append (ih hlater) fun id hid hagain => ?_
    -- what this report hands out has been seen by the later ones
    have hseen : id ∈ takeIn seen uploads :=
      mem_takeIn.2 (.inr (mem_uploadIds_freshUploads.1 hid).1)
    exact (mem_handedOut.1 hagain).1 hseen

end Reports

/-- Every upload in a series of reports is handed out exactly once. -/
structure HandsOutOnce (seen : List String) (reports : List (List Upload)) : Prop where
  /-- A report hands out its uploads that are new, in order. -/
  fresh : ∀ k, (handedOut seen reports)[k]? = reports[k]?.map fun uploads : List Upload =>
    uploads.filter fun u => u.id ∉ seen ∧ ¬ Reported (reports.take k) u.id
  /-- No identity is handed out twice. -/
  once : (uploadIds (handedOut seen reports).flatten).Nodup
  /-- No identity is skipped. -/
  all : ∀ id, id ∈ uploadIds (handedOut seen reports).flatten ↔ id ∉ seen ∧ Reported reports id
  /-- At any time, what has been seen is what was seen from the beginning and what has
  been reported. -/
  seen : ∀ k id, id ∈ seenAfter seen (reports.take k) ↔ id ∈ seen ∨ Reported (reports.take k) id

theorem handsOutOnce (seen : List String) {reports : List (List Upload)}
    (h : ∀ uploads ∈ reports, (uploadIds uploads).Nodup) : HandsOutOnce seen reports where
  fresh := getElem?_handedOut seen reports
  once := nodup_handedOut h
  all _ := mem_handedOut
  seen _ _ := mem_seenAfter

end TableQuery
