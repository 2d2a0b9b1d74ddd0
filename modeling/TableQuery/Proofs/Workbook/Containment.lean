/-
TableQuery/Proofs/Workbook/Containment.lean

Which files loading can deal with.

Loading is contained if it ends in one of two ways: with a workbook that has one
table for each sheet of the file, in their order, or with a failure for which
the file is to blame (`Workbook.Contained`).  Whatever decoding runs into is of
the second kind.  Only decoding is guarded in this way, though.  The tables are
built behind it, and a value that no cell can hold fails there on its own
account: a whole number past the bound, a quotient as large, or a value that
signals.

So containment comes down to the values that rows keep (`Grid.Fits`).  The
argument goes up from them, and on each level there is a result exactly if all
parts have one: a cell for a value (`Datum.becomesCell_iff`), a row
(`Row.exists_foldlM_setCell_iff`), a table (`Table.exists_ofGrid_iff`).
`Workbook.load_cases` is what this says of loading.  The order of the sheets
needs their names to be distinct: then no table is set in the place of another
(`Workbook.foldlM_putTable_of_fits`).
-/
import TableQuery.Proofs.Table
import TableQuery.Proofs.Workbook

namespace TableQuery

/-! ### Values -/

/-- A value that a cell can hold. -/
def Datum.Holdable : Datum → Prop
  | .integer n | .stored (.integer n) => n.natAbs < integerBound
  | .ratio n d => (Binary64.ofQuotient (n < 0) n.natAbs d).isFinite = true
  | .scaled (.notNumber _ signaling _) => signaling = false
  | _ => True

theorem not_exists_error_eq_ok {ε α : Type} (e : ε) : ¬ ∃ a : α, Except.error e = .ok a := by
  rintro ⟨a, ha⟩
  cases ha

theorem Cell.exists_ofInt_iff (n : Int) :
    (∃ c, Cell.ofInt n = .ok c) ↔ n.natAbs < integerBound := by
  rw [Cell.ofInt]
  by_cases h : n.natAbs < integerBound
  · rw [dif_pos h]
    exact iff_of_true ⟨_, rfl⟩ h
  · rw [dif_neg h]
    exact iff_of_false (not_exists_error_eq_ok _) h

theorem Cell.exists_of_ratio_iff (n : Int) (d : Nat) :
    (∃ c, Cell.of (.ratio n d) = .ok c) ↔
      (Binary64.ofQuotient (n < 0) n.natAbs d).isFinite = true := by
  rw [Cell.of, realOfRatio]
  by_cases h : (Binary64.ofQuotient (n < 0) n.natAbs d).isFinite = true
  · rw [if_pos h]
    exact iff_of_true ⟨_, rfl⟩ h
  · rw [if_neg h]
    exact iff_of_false (not_exists_error_eq_ok _) h

/-- There is a cell for exactly the values that a cell can hold. -/
theorem Datum.becomesCell_iff (d : Datum) : d.BecomesCell ↔ d.Holdable := by
  -- whole numbers and fractions have bounds, a signaling NaN is refused, all else has a cell
  cases d with
  | integer n => exact Cell.exists_ofInt_iff n
  | ratio n d => exact Cell.exists_of_ratio_iff n d
  | stored v =>
    cases v with
    | integer n => exact Cell.exists_ofInt_iff n
    | _ => exact iff_of_true ⟨_, rfl⟩ trivial
  | scaled v =>
    cases v with
    | notNumber negative signaling payload =>
      cases signaling with
      | false => exact iff_of_true ⟨_, rfl⟩ rfl
      | true => exact iff_of_false (not_exists_error_eq_ok _) Bool.noConfusion
    | _ => exact iff_of_true ⟨_, rfl⟩ trivial
  | _ => exact iff_of_true ⟨_, rfl⟩ trivial

instance : DecidablePred Datum.Holdable := fun d => decidable_of_iff _ d.becomesCell_iff

/-! ### Rows -/

namespace Row

theorem setCell_of_error {row : Row} {field : String × Datum} {e : CellError}
    (h : Cell.of field.2 = .error e) : row.setCell field = .error e := by
  rw [setCell, h]
  rfl

/-- Values become a row exactly if each of them becomes a cell. -/
theorem exists_foldlM_setCell_iff (fields : List (String × Datum)) (row : Row) :
    (∃ result, fields.foldlM setCell row = .ok result) ↔
      ∀ field ∈ fields, field.2.BecomesCell := by
  -- induction on the fields, for any row: a cell is made before it is put, wherever it goes
  induction fields generalizing row with
  | nil => exact iff_of_true ⟨row, rfl⟩ (List.forall_mem_nil _)
  | cons field rest ih =>
    rw [List.foldlM_cons, List.forall_mem_cons]
    rcases h : Cell.of field.2 with e | c
    · rw [setCell_of_error h]
      refine iff_of_false (not_exists_error_eq_ok _) ?_
      rintro ⟨⟨c, hc⟩, -⟩
      rw [h] at hc
      cases hc
    · rw [setCell_of_ok h]
      exact (ih (setNamed field.1 c row)).trans (and_iff_right ⟨c, h⟩).symm

end Row

/-! ### Grids -/

/-- The values that the row of a grid keeps, under the texts of the header. -/
def Grid.kept (grid : Grid) (values : List Datum) : List (String × Datum) :=
  latestNamed ((grid.header.map (·.plainText)).zip (values.map (·.unstored)))

/-- Cells can hold all values that the rows of a grid keep. -/
def Grid.Fits (grid : Grid) : Prop :=
  ∀ values ∈ grid.rows, ∀ field ∈ grid.kept values, field.2.Holdable

instance (grid : Grid) : Decidable grid.Fits :=
  inferInstanceAs (Decidable (∀ values ∈ grid.rows, ∀ field ∈ grid.kept values, field.2.Holdable))

/-- Elements can all be read exactly if each of them can. -/
theorem exists_mapM_iff {ε α β : Type} {f : α → Except ε β} {xs : List α} :
    (∃ ys, xs.mapM f = .ok ys) ↔ ∀ x ∈ xs, ∃ y, f x = .ok y := by
  constructor
  · induction xs with
    | nil => exact fun _ => List.forall_mem_nil _
    | cons x rest ih =>
      rintro ⟨ys, h⟩
      rw [List.mapM_cons] at h
      rcases hx : f x with e | y
      · rw [hx] at h
        cases h
      · rcases hrest : rest.mapM f with e | zs
        · rw [hx, hrest] at h
          cases h
        · exact List.forall_mem_cons.2 ⟨⟨y, hx⟩, ih ⟨zs, hrest⟩⟩
  · intro h
    obtain ⟨ys, hys, -⟩ := mapM_forall₂ (p := fun _ _ => True) fun x hx =>
      (h x hx).imp fun _ hy => ⟨hy, trivial⟩
    exact ⟨ys, hys⟩

/-- A grid becomes a table exactly if it fits. -/
theorem Table.exists_ofGrid_iff (grid : Grid) (name : Option String) :
    (∃ t, Table.ofGrid grid name = .ok t) ↔ grid.Fits := by
  have hrows : (∃ rows, grid.rows.mapM (fun values => Row.ofFields (grid.kept values)) = .ok rows) ↔
      grid.Fits := by
    refine exists_mapM_iff.trans (forall₂_congr fun values _ => ?_)
    rw [Row.ofFields_eq, Row.exists_foldlM_setCell_iff]
    exact forall₂_congr fun field _ => field.2.becomesCell_iff
  rw [← hrows]
  rw [Table.ofGrid]
  change (∃ t, (grid.rows.mapM (fun values => Row.ofFields (grid.kept values)) >>= _) = .ok t) ↔ _
  rcases grid.rows.mapM (fun values => Row.ofFields (grid.kept values)) with e | rows
  · exact iff_of_false (not_exists_error_eq_ok _) (not_exists_error_eq_ok _)
  · exact iff_of_true ⟨_, rfl⟩ ⟨rows, rfl⟩

/-! ### Files -/

/-- The grids of a file fit, if there are any. -/
def FileContent.Fits (content : FileContent) : Prop :=
  ∀ grids, content.decode = .ok grids → ∀ entry ∈ grids, entry.2.Fits

theorem FileContent.fits_iff {content : FileContent} {grids : List (String × Grid)}
    (h : content.decode = .ok grids) : content.Fits ↔ ∀ entry ∈ grids, entry.2.Fits := by
  constructor
  · intro hfits
    exact hfits grids h
  · intro hall other hother
    rw [h] at hother
    obtain rfl := Except.ok.inj hother
    exact hall

theorem FileContent.fits_of_decode_error {content : FileContent} {reason : DecodeError}
    (h : content.decode = .error reason) : content.Fits := by
  intro _ hgrids
  rw [h] at hgrids
  cases hgrids

instance (content : FileContent) : Decidable content.Fits :=
  match h : content.decode with
  | .ok _ => decidable_of_iff _ (FileContent.fits_iff h).symm
  | .error _ => .isTrue (FileContent.fits_of_decode_error h)

/-- One table for each grid, under the same names and in the same order. -/
def Tabulates (sheets : List (String × Table)) (grids : List (String × Grid)) : Prop :=
  List.Forall₂ (fun sheet entry =>
    sheet.1 = entry.1 ∧ Table.ofGrid entry.2 (some entry.1) = .ok sheet.2) sheets grids

namespace Workbook

/-- Loading a file under a name gives a workbook with one table for each sheet, in
order, or fails because of the file. -/
inductive Contained (name : String) (content : FileContent) : Prop
  | loaded {grids : List (String × Grid)} {w : Workbook} :
      content.decode = .ok grids → load name content = .ok w → w.name = name →
      Tabulates w.sheets grids → Contained name content
  | refused {e : WorkbookError} :
      load name content = .error e → e.isOfFile = true → Contained name content

/-- Grids that fit become tables, which are put behind those that are there. -/
theorem foldlM_putTable_of_fits {grids : List (String × Grid)}
    (tables : List (String × Table)) (hnames : (namesOf tables ++ namesOf grids).Nodup)
    (hfits : ∀ entry ∈ grids, entry.2.Fits) :
    ∃ sheets, grids.foldlM putTable tables = .ok (tables ++ sheets) ∧ Tabulates sheets grids := by
  induction grids generalizing tables with
  | nil =>
    refine ⟨[], ?_, .nil⟩
    rw [List.append_nil]
    rfl
  | cons entry rest ih =>
    obtain ⟨hfit, hfits⟩ := List.forall_mem_cons.1 hfits
    obtain ⟨t, ht⟩ := (Table.exists_ofGrid_iff entry.2 (some entry.1)).2 hfit
    rw [namesOf_cons] at hnames
    -- sheet names are not repeated, so each table goes to the end and none is replaced
    have hfresh : entry.1 ∉ namesOf tables := fun hmem =>
      (List.nodup_append.1 hnames).2.2 _ hmem _ List.mem_cons_self rfl
    have hset : setNamed entry.1 t tables = tables ++ [(entry.1, t)] := setNamed_of_not_mem hfresh
    have hrest : (namesOf (tables ++ [(entry.1, t)]) ++ namesOf rest).Nodup := by
      rw [namesOf_append, List.append_assoc]
      exact hnames
    obtain ⟨sheets, hsheets, htabulates⟩ := ih _ hrest hfits
    refine ⟨(entry.1, t) :: sheets, ?_, .cons ⟨rfl, ht⟩ htabulates⟩
    rw [List.foldlM_cons, putTable_of_ok ht, hset]
    rw [List.append_assoc] at hsheets
    exact hsheets

/-- A grid that does not fit fails the whole, because of a value. -/
theorem foldlM_putTable_of_not_fits {grids : List (String × Grid)} {entry : String × Grid}
    (hmem : entry ∈ grids) (hfit : ¬ entry.2.Fits) (tables : List (String × Table)) :
    ∃ e, grids.foldlM putTable tables = .error (.cell e) := by
  rcases foldlM_putTable_cases grids tables with ⟨_, _, hall, _⟩ | ⟨e, he, _⟩
  · exact absurd ((Table.exists_ofGrid_iff _ _).1 (hall entry hmem)) hfit
  · exact ⟨e, he⟩

/-- **Loading**: a file that fits is contained, and the reason why it is not is a
value. -/
theorem load_cases (name : String) (content : FileContent) :
    (content.Fits ∧ Contained name content) ∨
      (¬ content.Fits ∧ ∃ e, load name content = .error (.cell e)) := by
  -- the decoder fails before any cell is looked at; otherwise the cells decide
  rcases hd : content.decode with reason | grids
  · have hload : load name content = .error (.unreadable name reason) := by
      rw [load, hd]
      rfl
    exact .inl ⟨FileContent.fits_of_decode_error hd, .refused hload rfl⟩
  · have hload : load name content = grids.foldlM putTable [] >>= ofTables name := by
      rw [load, hd]
      rfl
    rw [FileContent.fits_iff hd]
    by_cases hall : ∀ entry ∈ grids, entry.2.Fits
    · obtain ⟨sheets, hsheets, htabulates⟩ :=
        foldlM_putTable_of_fits [] (FileContent.nodup_namesOf_decode hd) hall
      -- a decoded file has a sheet, so the last check of `ofTables` is passed
      have hne : sheets ≠ [] := by
        rintro rfl
        exact FileContent.decode_ne_nil hd (List.forall₂_nil_left_iff.1 htabulates)
      have hok : load name content = .ok ⟨name, sheets, hne⟩ := by
        rw [hload, hsheets]
        exact dif_neg hne
      exact .inl ⟨hall, .loaded hd hok rfl htabulates⟩
    · obtain ⟨entry, hmem, hfit⟩ : ∃ entry ∈ grids, ¬ entry.2.Fits := by
        simpa only [not_forall, exists_prop] using hall
      obtain ⟨e, he⟩ := foldlM_putTable_of_not_fits hmem hfit []
      refine .inr ⟨hall, e, ?_⟩
      rw [hload, he]
      rfl

/-- **Loading is contained for exactly the files that fit.** -/
theorem contained_iff_fits (name : String) (content : FileContent) :
    Contained name content ↔ content.Fits := by
  rcases load_cases name content with ⟨hfits, hcontained⟩ | ⟨hfits, e, he⟩
  · exact iff_of_true hcontained hfits
  · refine iff_of_false ?_ hfits
    rintro (⟨-, hload, -, -⟩ | ⟨hload, hfile⟩)
    · rw [he] at hload
      cases hload
    · rw [he] at hload
      obtain rfl := Except.error.inj hload
      cases hfile

end Workbook

end TableQuery
