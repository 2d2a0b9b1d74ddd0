/-
TableQuery/Proofs/Workbook.lean

What loading a workbook gives, and when it gives none.

A loaded workbook carries the name it was loaded under, and its first sheet
has a table.  Loading fails exactly if the file is `Unreadable`: either its
grids cannot be found, or a grid holds a value that becomes no cell.  A file
whose grids are found has at least one, so a workbook without sheets never
comes up.
-/
import TableQuery.Proofs.Named
import TableQuery.Workbook

namespace TableQuery

/-! ### Sheets of a workbook -/

namespace Workbook

/-- The table of the first sheet. -/
def firstTable (w : Workbook) : Table := (w.sheets.head w.sheets_ne_nil).2

theorem head?_sheetNames (w : Workbook) : w.sheetNames.head? = some w.firstSheet := by
  obtain ⟨name, sheets, h⟩ := w
  cases sheets with
  | nil => exact absurd rfl h
  | cons head rest => rfl

/-- The first sheet is there and has the first table. -/
theorem table_firstSheet (w : Workbook) : w.table w.firstSheet = .ok w.firstTable := by
  obtain ⟨name, sheets, h⟩ := w
  cases sheets with
  | nil => exact absurd rfl h
  | cons head rest => simp [table, firstSheet, firstTable, getNamed?]

/-- A sheet has a table exactly if the workbook has the sheet. -/
theorem mem_sheetNames_iff {w : Workbook} {sheet : String} :
    sheet ∈ w.sheetNames ↔ ∃ t, w.table sheet = .ok t := by
  rw [sheetNames, mem_namesOf_iff]
  cases h : getNamed? sheet w.sheets with
  | none => simp [table, h]
  | some t => simp [table, h]

/-- The failure of a sheet that is not there. -/
theorem table_of_not_mem {w : Workbook} {sheet : String} (h : sheet ∉ w.sheetNames) :
    w.table sheet = .error ⟨sheet, w.name, w.sheetNames⟩ := by
  rw [sheetNames, ← getNamed?_eq_none_iff] at h
  rw [table, h]

end Workbook

/-! ### Files -/

/-- A file holds no workbook: its grids cannot be found, or one of them has a
value that becomes no cell. -/
def FileContent.Unreadable (content : FileContent) : Prop :=
  (∃ e, content.decode = .error e) ∨
    ∃ grids, content.decode = .ok grids ∧
      ∃ entry ∈ grids, ∃ e, Table.ofGrid entry.2 (some entry.1) = .error e

namespace SheetName

theorem length_foldl_distinct (names earlier : List String) :
    (names.foldl (fun earlier name => earlier ++ [distinct earlier name]) earlier).length
      = earlier.length + names.length := by
  induction names generalizing earlier with
  | nil => rfl
  | cons name rest ih =>
    rw [List.foldl_cons, ih, List.length_append, List.length_cons, List.length_cons,
      List.length_nil]
    omega

/-- Making names distinct keeps how many there are. -/
theorem length_distinctAll (names : List String) :
    (distinctAll names).length = names.length := by
  rw [distinctAll, length_foldl_distinct, List.length_nil, Nat.zero_add]

end SheetName

/-- Finding grids keeps the names. -/
theorem namesOf_of_mapM_namedGrid? {entries : List (String × Sheet)} {grids : List (String × Grid)}
    (h : entries.mapM Sheet.namedGrid? = some grids) : namesOf grids = namesOf entries := by
  induction entries generalizing grids with
  | nil =>
    rw [List.mapM_nil] at h
    obtain rfl := Option.some.inj h
    rfl
  | cons entry rest ih =>
    rw [List.mapM_cons] at h
    obtain ⟨named, hnamed, h⟩ := Option.bind_eq_some_iff.1 h
    obtain ⟨others, hothers, h⟩ := Option.bind_eq_some_iff.1 h
    obtain rfl := Option.some.inj h
    obtain ⟨grid, -, rfl⟩ := Option.map_eq_some_iff.1 hnamed
    rw [namesOf_cons, namesOf_cons, ih hothers]

/-- The grids of a file that is put together from sheets have the names of these,
each once. -/
theorem FileContent.namesOf_decode_workbook {sheets : List Sheet} {grids : List (String × Grid)}
    (h : (FileContent.workbook sheets).decode = .ok grids) :
    sheets ≠ [] ∧ namesOf grids
      = namesOf (firstNamed ((SheetName.distinctAll (sheets.map (·.name))).zip sheets)) := by
  cases sheets with
  | nil => cases h
  | cons sheet rest =>
    simp only [decode] at h
    split at h
    · next hfound =>
      obtain rfl := Except.ok.inj h
      exact ⟨List.cons_ne_nil _ _, namesOf_of_mapM_namedGrid? hfound⟩
    · cases h

/-- A file without sheets has no grids to find. -/
theorem FileContent.decode_archive (members : List String) :
    ∃ e, (FileContent.archive members).decode = .error e := by
  rw [decode]
  split
  · exact ⟨_, rfl⟩
  · exact ⟨_, rfl⟩

/-- A file whose grids are found has at least one. -/
theorem FileContent.decode_ne_nil {content : FileContent} {grids : List (String × Grid)}
    (h : content.decode = .ok grids) : grids ≠ [] := by
  cases content with
  | plain => cases h
  | archive members =>
    obtain ⟨e, he⟩ := decode_archive members
    rw [he] at h
    cases h
  | workbook sheets =>
    obtain ⟨hsheets, hnames⟩ := namesOf_decode_workbook h
    rintro rfl
    -- both halves of the pairing are as long as the list of sheets
    have hnil : (SheetName.distinctAll (sheets.map (·.name))).zip sheets = [] :=
      firstNamed_eq_nil_iff.1 (List.map_eq_nil_iff.1 hnames.symm)
    rcases List.zip_eq_nil_iff.1 hnil with hnone | hnone
    · have hlength := congrArg List.length hnone
      rw [SheetName.length_distinctAll, List.length_map] at hlength
      exact hsheets (List.length_eq_zero_iff.1 hlength)
    · exact hsheets hnone
  | other outcome =>
    rcases outcome with e | found
    · cases h
    · obtain rfl := Except.ok.inj h
      exact found.grids_ne_nil

/-- The grids of a file have distinct names. -/
theorem FileContent.nodup_namesOf_decode {content : FileContent} {grids : List (String × Grid)}
    (h : content.decode = .ok grids) : (namesOf grids).Nodup := by
  cases content with
  | plain => cases h
  | archive members =>
    obtain ⟨e, he⟩ := decode_archive members
    rw [he] at h
    cases h
  | workbook sheets =>
    rw [(namesOf_decode_workbook h).2]
    exact nodup_namesOf_firstNamed _
  | other outcome =>
    rcases outcome with e | found
    · cases h
    · obtain rfl := Except.ok.inj h
      exact found.distinct

/-! ### Loading -/

namespace Workbook

/-- Puts the table of a grid under the name of its sheet. -/
def putTable (tables : List (String × Table)) (entry : String × Grid) :
    Except WorkbookError (List (String × Table)) := do
  let table ← (Table.ofGrid entry.2 (some entry.1)).mapError .cell
  return setNamed entry.1 table tables

/-- The workbook of some tables, of which there must be one. -/
def ofTables (name : String) (tables : List (String × Table)) : Except WorkbookError Workbook :=
  if h : tables = [] then .error (.empty name) else return ⟨name, tables, h⟩

theorem ofGrids_eq (name : String) (grids : List (String × Grid)) :
    ofGrids name grids = grids.foldlM putTable [] >>= ofTables name := rfl

theorem name_of_ofTables {name : String} {tables : List (String × Table)} {w : Workbook}
    (h : ofTables name tables = .ok w) : w.name = name := by
  rw [ofTables] at h
  split at h
  · cases h
  · cases h
    rfl

theorem putTable_of_ok {tables : List (String × Table)} {entry : String × Grid} {t : Table}
    (h : Table.ofGrid entry.2 (some entry.1) = .ok t) :
    putTable tables entry = .ok (setNamed entry.1 t tables) := by
  rw [putTable, h]
  rfl

theorem putTable_of_error {tables : List (String × Table)} {entry : String × Grid} {e : CellError}
    (h : Table.ofGrid entry.2 (some entry.1) = .error e) :
    putTable tables entry = .error (.cell e) := by
  rw [putTable, h]
  rfl

/-- The grids become tables unless one of them holds a value that becomes no
cell, and then there is a table if there is a grid. -/
theorem foldlM_putTable_cases (grids : List (String × Grid)) (tables : List (String × Table)) :
    (∃ found, grids.foldlM putTable tables = .ok found ∧
        (∀ entry ∈ grids, ∃ t, Table.ofGrid entry.2 (some entry.1) = .ok t) ∧
        (grids ≠ [] ∨ tables ≠ [] → found ≠ [])) ∨
      (∃ e, grids.foldlM putTable tables = .error (.cell e) ∧
        ∃ entry ∈ grids, ∃ e, Table.ofGrid entry.2 (some entry.1) = .error e) := by
  -- induction on the grids, for any tables so far: the first failure ends the run
  induction grids generalizing tables with
  | nil => exact .inl ⟨tables, rfl, by simp, by simp⟩
  | cons entry rest ih =>
    rw [List.foldlM_cons]
    rcases h : Table.ofGrid entry.2 (some entry.1) with e | t
    · rw [putTable_of_error h]
      exact .inr ⟨e, rfl, entry, List.mem_cons_self, e, h⟩
    · rw [putTable_of_ok h]
      rcases ih (setNamed entry.1 t tables) with ⟨found, hfound, hall, hne⟩ | ⟨e, he, p, hp, hpe⟩
      · refine .inl ⟨found, hfound, ?_, fun _ => hne (.inr (setNamed_ne_nil _ _ _))⟩
        exact List.forall_mem_cons.2 ⟨⟨t, h⟩, hall⟩
      · exact .inr ⟨e, he, p, List.mem_cons_of_mem _ hp, hpe⟩

/-- A loaded workbook carries the name it was loaded under. -/
theorem name_of_load {name : String} {content : FileContent} {w : Workbook}
    (h : load name content = .ok w) : w.name = name := by
  rw [load] at h
  rcases hd : content.decode with reason | grids
  · rw [hd] at h
    cases h
  · rw [hd] at h
    change ofGrids name grids = .ok w at h
    rw [ofGrids_eq] at h
    rcases hf : grids.foldlM putTable [] with e | found
    · rw [hf] at h
      cases h
    · rw [hf] at h
      exact name_of_ofTables h

/-- **Loading fails exactly if the file holds no workbook.**  In particular a
workbook without sheets is never the reason. -/
theorem load_eq_error_iff {name : String} {content : FileContent} :
    (∃ e, load name content = .error e) ↔ content.Unreadable := by
  rw [load, FileContent.Unreadable]
  rcases hd : content.decode with reason | grids
  · exact ⟨fun _ => .inl ⟨reason, rfl⟩, fun _ => ⟨.unreadable name reason, rfl⟩⟩
  · change (∃ e, ofGrids name grids = .error e) ↔ _
    rw [ofGrids_eq]
    -- all grids become tables, or the first that does not ends the load
    rcases foldlM_putTable_cases grids [] with ⟨found, hfound, hall, hne⟩ | ⟨e, he, hbad⟩
    · have hload : (grids.foldlM putTable [] >>= ofTables name)
          = .ok ⟨name, found, hne (.inl (FileContent.decode_ne_nil hd))⟩ := by
        rw [hfound]
        exact dif_neg (hne (.inl (FileContent.decode_ne_nil hd)))
      rw [hload]
      constructor
      · rintro ⟨e, he⟩
        cases he
      · rintro (⟨e, he⟩ | ⟨other, hother, entry, hentry, e, he⟩)
        · cases he
        · obtain rfl := Except.ok.inj hother
          obtain ⟨t, ht⟩ := hall entry hentry
          rw [ht] at he
          cases he
    · rw [he]
      exact ⟨fun _ => .inr ⟨grids, rfl, hbad⟩, fun _ => ⟨.cell e, rfl⟩⟩

end Workbook

end TableQuery
