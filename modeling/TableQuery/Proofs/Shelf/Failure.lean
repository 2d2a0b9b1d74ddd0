/-
TableQuery/Proofs/Shelf/Failure.lean

An action on a shelf that fails changes nothing.

The actions check at different depths: a file is loaded before the shelf is
touched, a file is looked up first, a sheet only while it is selected.
`Refused` says from the outside which commands fail, without following the
actions.  `perform_cases` ties the two together: a refused command returns the
shelf it was given, and every other command succeeds.  The invariant is
consumed for the choice of a sheet alone, where the file in use must still be
stored.
-/
import TableQuery.Proofs.Shelf.Consistency

namespace TableQuery

namespace Shelf

variable {s : Shelf}

/-- The commands that a shelf refuses: adding a file that holds no workbook,
selecting or removing a file that is not stored, selecting a sheet when
nothing is selected, or one that the workbook in use lacks. -/
def Command.Refused (s : Shelf) : Command → Prop
  | .add _ content => content.Unreadable
  | .selectFile name | .remove name => name ∉ s.fileNames
  | .selectSheet sheet =>
    s.selectedFile? = none ∨
      ∃ file w, s.selectedFile? = some file ∧ getNamed? file s.workbooks = some w ∧
        sheet ∉ w.sheetNames

/-- With a stored workbook in use, a sheet is refused if the workbook lacks
it. -/
theorem refused_selectSheet_iff {x : Selection} {w : Workbook} {sheet : String}
    (hx : s.selection = some x) (hw : getNamed? x.file s.workbooks = some w) :
    (Command.selectSheet sheet).Refused s ↔ sheet ∉ w.sheetNames := by
  have hfile : s.selectedFile? = some x.file := selectedFile?_of_some hx
  constructor
  -- a sheet is refused if no file is in use or the one in use lacks it; here one is in use
  · rintro (hnone | ⟨file, v, hf, hv, hnot⟩)
    · rw [hfile] at hnone
      cases hnone
    · rw [hfile] at hf
      obtain rfl := Option.some.inj hf
      rw [hw] at hv
      obtain rfl := Option.some.inj hv
      exact hnot
  · intro hnot
    exact .inr ⟨x.file, w, hfile, hw, hnot⟩

/-- A refused command fails on an unchanged shelf, and every other command
succeeds. -/
theorem perform_cases (hs : s.Consistent) (c : Command) :
    (c.Refused s ∧ ∃ e, s.perform c = (.error e, s)) ∨
      (¬ c.Refused s ∧ ∃ t, s.perform c = (.ok (), t)) := by
  -- for each command the same question decides on the refusal and on the failure
  cases c with
  | add name content =>
    rcases h : Workbook.load name content with e | w
    · exact .inl ⟨Workbook.load_eq_error_iff.1 ⟨e, h⟩, _, perform_add_of_error h⟩
    · refine .inr ⟨?_, _, perform_add_of_ok h⟩
      intro hc
      obtain ⟨e, he⟩ := Workbook.load_eq_error_iff.2 hc
      rw [h] at he
      cases he
  | selectFile name =>
    rcases h : getNamed? name s.workbooks with - | w
    · exact .inl ⟨getNamed?_eq_none_iff.1 h, _, perform_selectFile_of_none h⟩
    · exact .inr ⟨not_not_intro (mem_namesOf_iff.2 ⟨w, h⟩), _, perform_selectFile_of_some h⟩
  | selectSheet sheet =>
    rcases hx : s.selection with - | x
    · exact .inl ⟨.inl (selectedFile?_of_none hx), _, perform_selectSheet_of_none hx⟩
    · obtain ⟨w, hw, -⟩ := hs.current hx
      -- with a file in use it is the workbook that has the sheet or not
      rw [refused_selectSheet_iff hx hw, perform_selectSheet_of_some hx hw]
      by_cases hmem : sheet ∈ w.sheetNames
      · obtain ⟨t, ht⟩ := Workbook.mem_sheetNames_iff.1 hmem
        rw [ht]
        exact .inr ⟨not_not_intro hmem, _, rfl⟩
      · rw [Workbook.table_of_not_mem hmem]
        exact .inl ⟨hmem, _, rfl⟩
  | remove name =>
    rcases h : getNamed? name s.workbooks with - | w
    · exact .inl ⟨getNamed?_eq_none_iff.1 h, _, perform_remove_of_none h⟩
    · exact .inr ⟨not_not_intro (mem_namesOf_iff.2 ⟨w, h⟩), _, perform_remove_of_some h⟩

/-- **Failure is atomic.**  After any sequence of commands a further command
fails exactly if the shelf refuses it, and a command that fails leaves the
stored names and workbooks, their order and the selection as they were. -/
theorem failure_after (commands : List Command) (c : Command) :
    let s := after {} commands
    ((∃ e, (s.perform c).1 = .error e) ↔ c.Refused s) ∧
      ∀ e, (s.perform c).1 = .error e → (s.perform c).2 = s := by
  intro s
  have hs : s.Consistent := consistent_after commands
  -- a refused command fails on the spot; any other gets to its end
  rcases perform_cases hs c with ⟨hrefused, e, he⟩ | ⟨hnot, t, ht⟩
  · rw [he]
    exact ⟨iff_of_true ⟨e, rfl⟩ hrefused, fun _ _ => rfl⟩
  · rw [ht]
    constructor
    · refine iff_of_false ?_ hnot
      rintro ⟨e, he⟩
      cases he
    · intro e he
      cases he

end Shelf

end TableQuery
