/-
TableQuery/Proofs/Shelf/Consistency.lean

The selection of a shelf never goes stale.

The selection holds a table so that it can be used without a search, and it
would be wrong as soon as that table were not the stored one.  `Consistent`
says that it is: something is selected unless the shelf is empty, and what is
selected is `Current`, that is, its file is stored, has its sheet, and has
its table under that sheet.

For the induction two more things are needed, because a command looks up a
workbook under one name and selects it under the name that it carries: each
name stands for one workbook, and each workbook carries the name it stands
under.  Distinct names are consumed by removal only, where a file must not
come back under the name that was removed.

Main result: `selection_after`, the state of the selection after any sequence
of commands.
-/
import TableQuery.Proofs.Shelf.Actions

namespace TableQuery

namespace Shelf

variable {s : Shelf} {w : Workbook} {x : Selection} {workbooks : List (String × Workbook)}

/-! ### The invariant -/

/-- A selection is that of a stored workbook: its file is among these, and its
table is the one of its sheet there. -/
def Current (workbooks : List (String × Workbook)) (x : Selection) : Prop :=
  ∃ w, getNamed? x.file workbooks = some w ∧ w.table x.sheet = .ok x.table

/-- Each workbook carries the name it stands under. -/
def SelfNamed (workbooks : List (String × Workbook)) : Prop :=
  ∀ ⦃name w⦄, getNamed? name workbooks = some w → w.name = name

/-- The selection and the workbooks fit together. -/
structure Consistent (s : Shelf) : Prop where
  nodup : s.fileNames.Nodup
  named : SelfNamed s.workbooks
  selects : s.selection = none → s.workbooks = []
  current : ∀ ⦃x⦄, s.selection = some x → Current s.workbooks x

theorem consistent_empty : ({} : Shelf).Consistent where
  nodup := List.nodup_nil
  named := by
    intro name w h
    cases h
  selects := fun _ => rfl
  current := by
    intro x h
    cases h

/-! ### What is opened is current -/

theorem current_opening (h : getNamed? w.name workbooks = some w) :
    Current workbooks w.opening :=
  ⟨w, h, w.table_firstSheet⟩

/-- Among named workbooks the first can be opened, if there is one. -/
theorem current_of_firstOpening (hn : SelfNamed workbooks)
    (h : firstOpening? workbooks = some x) : Current workbooks x := by
  rcases workbooks with - | ⟨⟨name, w⟩, others⟩
  · cases h
  · obtain rfl := Option.some.inj h
    have hw : getNamed? name ((name, w) :: others) = some w := if_pos rfl
    apply current_opening
    rw [hn hw]
    exact hw

theorem firstOpening?_eq_none (h : firstOpening? workbooks = none) : workbooks = [] := by
  cases workbooks with
  | nil => rfl
  | cons head rest => cases h

/-! ### What remains after a removal -/

section Removal

variable {name : String}

/-- What remains stood under the same name before. -/
theorem getNamed?_of_eraseNamed (hd : (namesOf workbooks).Nodup) {other : String}
    (h : getNamed? other (eraseNamed name workbooks) = some w) :
    getNamed? other workbooks = some w := by
  have hne : other ≠ name := by
    intro he
    rw [he, getNamed?_eraseNamed_self hd] at h
    cases h
  rwa [getNamed?_eraseNamed_of_ne hne] at h

theorem SelfNamed.erase (hn : SelfNamed workbooks) (hd : (namesOf workbooks).Nodup) :
    SelfNamed (eraseNamed name workbooks) :=
  fun _ _ h => hn (getNamed?_of_eraseNamed hd h)

/-- Removing another file leaves a selection current. -/
theorem Current.erase (hx : Current workbooks x) (hne : x.file ≠ name) :
    Current (eraseNamed name workbooks) x := by
  obtain ⟨w, hw, ht⟩ := hx
  refine ⟨w, ?_, ht⟩
  rw [getNamed?_eraseNamed_of_ne hne]
  exact hw

theorem Current.ne_nil (hx : Current workbooks x) : workbooks ≠ [] := by
  intro hnil
  obtain ⟨w, hw, -⟩ := hx
  rw [hnil] at hw
  cases hw

end Removal

/-! ### Each command keeps the invariant -/

/-- Selecting a sheet of a stored workbook. -/
theorem Consistent.select (hs : s.Consistent) {name sheet : String} {t : Table}
    (hw : getNamed? name s.workbooks = some w) (ht : w.table sheet = .ok t) :
    ({ s with selection := some ⟨w.name, sheet, t⟩ } : Shelf).Consistent where
  nodup := hs.nodup
  named := hs.named
  selects := by
    intro h
    cases h
  current := by
    intro x h
    obtain rfl := Option.some.inj h
    refine ⟨w, ?_, ht⟩
    rw [hs.named hw]
    exact hw

/-- Adding a workbook under the name it carries. -/
theorem Consistent.add (hs : s.Consistent) (w : Workbook) :
    ({ workbooks := setNamed w.name w s.workbooks, selection := some w.opening } : Shelf).Consistent
    where
  nodup := nodup_namesOf_setNamed hs.nodup
  named := by
    intro name v h
    by_cases he : name = w.name
    · rw [he, getNamed?_setNamed_self] at h
      rw [he, Option.some.inj h]
    · rw [getNamed?_setNamed_of_ne he] at h
      exact hs.named h
  selects := by
    intro h
    cases h
  current := by
    intro x h
    obtain rfl := Option.some.inj h
    exact current_opening (getNamed?_setNamed_self _ _ _)

/-- Removing a file, the one in use or another. -/
theorem Consistent.without (hs : s.Consistent) (name : String) :
    (s.without name).Consistent := by
  have hnodup : (namesOf (eraseNamed name s.workbooks)).Nodup := by
    rw [namesOf_eraseNamed]
    exact hs.nodup.erase name
  have hnamed : SelfNamed (eraseNamed name s.workbooks) := hs.named.erase hs.nodup
  -- the workbook that is selected falls back to the first one; otherwise the selection is kept
  by_cases hsel : s.selectedFile? = some name
  · rw [Shelf.without, if_pos hsel]
    exact ⟨hnodup, hnamed, firstOpening?_eq_none, fun _ h => current_of_firstOpening hnamed h⟩
  · rw [Shelf.without, if_neg hsel]
    refine ⟨hnodup, hnamed, ?_, ?_⟩
    · intro h
      show eraseNamed name s.workbooks = []
      rw [hs.selects h]
      rfl
    · intro x hx
      have hfile : s.selectedFile? = some x.file := selectedFile?_of_some hx
      refine (hs.current hx).erase ?_
      intro he
      rw [he] at hfile
      exact hsel hfile

/-- Every command keeps the selection and the workbooks together, whether or
not it succeeds. -/
theorem Consistent.perform (hs : s.Consistent) (c : Command) : (s.perform c).2.Consistent := by
  -- a command that is refused leaves the shelf alone; one that is done has its own step
  cases c with
  | add name content =>
    rcases h : Workbook.load name content with e | w
    · rw [perform_add_of_error h]
      exact hs
    · rw [perform_add_of_ok h]
      obtain rfl := Workbook.name_of_load h
      exact hs.add w
  | selectFile name =>
    rcases h : getNamed? name s.workbooks with - | w
    · rw [perform_selectFile_of_none h]
      exact hs
    · rw [perform_selectFile_of_some h]
      exact hs.select h w.table_firstSheet
  | selectSheet sheet =>
    rcases hx : s.selection with - | x
    · rw [perform_selectSheet_of_none hx]
      exact hs
    -- the file in use is on the shelf, so only the sheet can be missing
    · obtain ⟨w, hw, -⟩ := hs.current hx
      rw [perform_selectSheet_of_some hx hw]
      rcases ht : w.table sheet with e | t
      · exact hs
      · exact hs.select hw ht
  | remove name =>
    rcases h : getNamed? name s.workbooks with - | w
    · rw [perform_remove_of_none h]
      exact hs
    · rw [perform_remove_of_some h]
      exact hs.without name

/-- After any sequence of commands the selection and the workbooks fit
together. -/
theorem consistent_after (commands : List Command) : (after {} commands).Consistent :=
  after_induction (fun _ c hs => hs.perform c) commands consistent_empty

/-! ### The selection after any sequence of commands -/

/-- **The selection is never stale.**  After any sequence of commands on an
empty shelf, failed ones included, there is a selection exactly if there is a
workbook.  Its file is then stored under the name that the workbook carries,
and its table is the one that this workbook has under its sheet. -/
theorem selection_after (commands : List Command) :
    let s := after {} commands
    (s.workbooks = [] ↔
        s.selectedFile? = none ∧ s.selectedSheet? = none ∧ s.activeTable? = none) ∧
      (s.workbooks ≠ [] → ∃ file sheet table w,
        s.selectedFile? = some file ∧ s.selectedSheet? = some sheet ∧
          s.activeTable? = some table ∧ file ∈ s.fileNames ∧
          getNamed? file s.workbooks = some w ∧ w.name = file ∧ sheet ∈ w.sheetNames ∧
          w.table sheet = .ok table) := by
  intro s
  have hs : s.Consistent := consistent_after commands
  -- the invariant has a field for each of the two: nothing is selected, or something is
  rcases hx : s.selection with - | x
  · have hnil : s.workbooks = [] := hs.selects hx
    have hviews : s.selectedFile? = none ∧ s.selectedSheet? = none ∧ s.activeTable? = none := by
      rw [selectedFile?, selectedSheet?, activeTable?, hx]
      exact ⟨rfl, rfl, rfl⟩
    exact ⟨iff_of_true hnil hviews, fun hne => absurd hnil hne⟩
  · obtain ⟨w, hw, ht⟩ := hs.current hx
    have hfile : s.selectedFile? = some x.file := selectedFile?_of_some hx
    have hsheet : s.selectedSheet? = some x.sheet := selectedSheet?_of_some hx
    have htable : s.activeTable? = some x.table := activeTable?_of_some hx
    constructor
    · refine iff_of_false (hs.current hx).ne_nil ?_
      rintro ⟨h, -, -⟩
      rw [hfile] at h
      cases h
    · intro _
      exact ⟨x.file, x.sheet, x.table, w, hfile, hsheet, htable, mem_namesOf_iff.2 ⟨w, hw⟩, hw,
        hs.named hw, Workbook.mem_sheetNames_iff.2 ⟨x.table, ht⟩, ht⟩

end Shelf

end TableQuery
