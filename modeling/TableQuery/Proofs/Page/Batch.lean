/-
TableQuery/Proofs/Page/Batch.lean

What becomes of a batch of uploads.

The page counts all uploads that are new as seen and then takes them one after
another.  An upload that is `Handled` never keeps the page from the next one: it
is too large, or its file fits, and then it is loaded or the file is to blame.
What such an upload leaves behind is known beforehand, namely a report in the
sidebar (`Upload.reports`) and a command for the shelf (`Upload.commands`).  Any
other upload stops the drawing, and it leaves nothing behind.

So the run of a batch is that of the handled uploads at its start, for each of
which the step is `runOn_takeUpload_of_handled`, followed by the run of the rest
(`runOn_forM_takeUpload`).  Either there is no rest, or the rest begins with the
upload that stops the drawing; everything after that is not taken, although it
is seen already (`loses_strayNumber`).

Main result: `uploads_contained`.
-/
import TableQuery.Proofs.Page.Drawing
import TableQuery.Proofs.Shelf.Actions
import TableQuery.Proofs.Workbook.Containment

namespace TableQuery

open Text Drawing

/-! ### Uploads -/

namespace Upload

/-- An upload is larger than what is allowed. -/
def TooLarge (settings : PageSettings) (u : Upload) : Prop :=
  settings.maxUploadMegabytes * 1024 * 1024 < u.size

instance (settings : PageSettings) (u : Upload) : Decidable (u.TooLarge settings) :=
  inferInstanceAs (Decidable (_ < _))

/-- An upload that is too large or whose file fits. -/
def Handled (settings : PageSettings) (u : Upload) : Prop :=
  u.TooLarge settings ∨ u.content.Fits

instance (settings : PageSettings) (u : Upload) : Decidable (u.Handled settings) :=
  inferInstanceAs (Decidable (_ ∨ _))

/-- What the page says of an upload: that it is too large, or why it cannot be
loaded. -/
def reports (settings : PageSettings) (u : Upload) : List PageElement :=
  if u.TooLarge settings then
    [.sidebarError
      (u.name ++ " is larger than " ++ integerText settings.maxUploadMegabytes ++ "MB")]
  else
    match Workbook.load u.name u.content with
    | .ok _ => []
    | .error e => [.sidebarError e.message]

/-- What an upload asks of the shelf. -/
def commands (settings : PageSettings) (u : Upload) : List Shelf.Command :=
  if u.TooLarge settings then [] else [.add u.name u.content]

end Upload

/-! ### Canvases -/

namespace Canvas

/-- A canvas on whose session the page has made this shelf. -/
def withShelf (c : Canvas) (s : Shelf) : Canvas :=
  { c with session := { c.session with shelf := some s } }

/-- The uploads of a visit that are new to a canvas. -/
def fresh (c : Canvas) (v : Visit) : List Upload :=
  freshUploads (c.session.seen.getD []) v.uploads

/-- The canvas after the field for uploads is drawn: all new ones are seen. -/
def offered (c : Canvas) (settings : PageSettings) (v : Visit) : Canvas :=
  { c with
    session := { c.session with seen := some (markSeen (c.session.seen.getD []) (c.fresh v)) }
    drawn := c.drawn ++ [.fileUploader "Upload Excel files" ["xlsx"] true
      ("Maximum file size: " ++ integerText settings.maxUploadMegabytes ++ "MB")] }

/-- The canvas after some uploads are taken: their reports are drawn, and the shelf
has done what they ask for. -/
def taking (c : Canvas) (settings : PageSettings) (s : Shelf) (taken : List Upload) : Canvas :=
  (c.add (taken.flatMap (·.reports settings))).withShelf
    (s.after (taken.flatMap (·.commands settings)))

theorem taking_nil (c : Canvas) (settings : PageSettings) (s : Shelf) :
    c.taking settings s [] = c.withShelf s := by
  rw [taking, List.flatMap_nil, List.flatMap_nil, add, List.append_nil]
  rfl

theorem taking_cons (c : Canvas) (settings : PageSettings) (s : Shelf) (u : Upload)
    (rest : List Upload) :
    c.taking settings s (u :: rest)
      = (c.add (u.reports settings)).taking settings (s.after (u.commands settings)) rest := by
  rw [taking, List.flatMap_cons, List.flatMap_cons, ← add_add, Shelf.after_append]
  rfl

end Canvas

namespace Page

variable {settings : PageSettings} {u : Upload} {c : Canvas} {s : Shelf}

/-! ### One upload -/

theorem runOn_takeUpload_of_tooLarge (h : u.TooLarge settings) :
    runOn (takeUpload settings u) (c.withShelf s)
      = (.ok (), (c.add (u.reports settings)).withShelf s) := by
  rw [Upload.reports, if_pos h]
  change settings.maxUploadMegabytes * 1024 * 1024 < u.size at h
  rw [takeUpload, if_pos h]
  rfl

theorem runOn_takeUpload_of_ok (hsize : ¬ u.TooLarge settings) {w : Workbook}
    (hload : Workbook.load u.name u.content = .ok w) :
    runOn (takeUpload settings u) (c.withShelf s)
      = (.ok (), c.withShelf (s.perform (.add u.name u.content)).2) := by
  change ¬ settings.maxUploadMegabytes * 1024 * 1024 < u.size at hsize
  rw [takeUpload, if_neg hsize,
    runOn_bind_ok (runOn_tryShelf (s := s) rfl (Shelf.runOn_add_of_ok hload s)),
    Shelf.perform_add_of_ok hload]
  rfl

/-- A failed upload leaves the shelf alone; whether the page goes on depends on who is
to blame. -/
theorem runOn_takeUpload_of_error (hsize : ¬ u.TooLarge settings) {e : WorkbookError}
    (hload : Workbook.load u.name u.content = .error e) :
    runOn (takeUpload settings u) (c.withShelf s)
      = runOn (if e.isOfFile then draw (.sidebarError e.message)
          else throw (.failed (.shelf (.workbook e)))) (c.withShelf s) := by
  change ¬ settings.maxUploadMegabytes * 1024 * 1024 < u.size at hsize
  rw [takeUpload, if_neg hsize,
    runOn_bind_ok (runOn_tryShelf (s := s) rfl (Shelf.runOn_add_of_error hload s))]
  rfl

/-- **A handled upload** leaves its report and what the shelf makes of it. -/
theorem runOn_takeUpload_of_handled (h : u.Handled settings) :
    runOn (takeUpload settings u) (c.withShelf s)
      = (.ok (), (c.add (u.reports settings)).withShelf (s.after (u.commands settings))) := by
  rw [Upload.commands]
  by_cases hsize : u.TooLarge settings
  · rw [if_pos hsize]
    exact runOn_takeUpload_of_tooLarge hsize
  · rw [if_neg hsize, Upload.reports, if_neg hsize]
    -- a file that fits is loaded, or refused with an error that the page reports
    rcases (Workbook.contained_iff_fits u.name u.content).2 (h.resolve_left hsize) with
      ⟨-, hload, -, -⟩ | ⟨hload, hfile⟩
    · rw [runOn_takeUpload_of_ok hsize hload, hload]
      dsimp only
      rw [Canvas.add, List.append_nil]
      rfl
    · rw [runOn_takeUpload_of_error hsize hload, if_pos hfile, hload, Shelf.after_cons,
        Shelf.perform_add_of_error hload]
      rfl

/-- **Any other upload** stops the drawing because of a value, and leaves nothing. -/
theorem exists_runOn_takeUpload_of_not_handled (h : ¬ u.Handled settings) :
    ∃ e, Workbook.load u.name u.content = .error (.cell e) ∧
      ∀ (c : Canvas) (s : Shelf), runOn (takeUpload settings u) (c.withShelf s)
        = (.error (.failed (.shelf (.workbook (.cell e)))), c.withShelf s) := by
  rw [Upload.Handled, not_or] at h
  obtain ⟨hsize, hfits⟩ := h
  rcases Workbook.load_cases u.name u.content with ⟨hfits', -⟩ | ⟨-, e, hload⟩
  · exact absurd hfits' hfits
  · refine ⟨e, hload, fun c s => ?_⟩
    rw [runOn_takeUpload_of_error hsize hload]
    rfl

/-! ### A batch -/

/-- Handled uploads at the start of a batch are taken, and the rest goes on from
there. -/
theorem runOn_forM_takeUpload {taken : List Upload} (h : ∀ u ∈ taken, u.Handled settings)
    (rest : List Upload) (c : Canvas) (s : Shelf) :
    runOn ((taken ++ rest).forM (takeUpload settings)) (c.withShelf s)
      = runOn (rest.forM (takeUpload settings)) (c.taking settings s taken) := by
  -- induction on the uploads: each leaves a canvas and a shelf for the next
  induction taken generalizing c s with
  | nil =>
    rw [Canvas.taking_nil]
    rfl
  | cons u taken ih =>
    obtain ⟨hu, htaken⟩ := List.forall_mem_cons.1 h
    rw [Canvas.taking_cons, ← ih htaken]
    show runOn (takeUpload settings u >>= fun _ => (taken ++ rest).forM (takeUpload settings)) _ = _
    rw [runOn_bind_ok (runOn_takeUpload_of_handled hu)]

/-- The field for uploads, then one new upload after another. -/
theorem runOn_drawUploads (settings : PageSettings) (v : Visit) (c : Canvas) (s : Shelf) :
    runOn (drawUploads settings v) (c.withShelf s)
      = runOn ((c.fresh v).forM (takeUpload settings)) ((c.offered settings v).withShelf s) := rfl

/-- A list starts with elements that have a property, and there is a first one that
has not, unless all have it. -/
theorem forall_or_exists_first {α : Type} (p : α → Prop) [DecidablePred p] (xs : List α) :
    (∀ x ∈ xs, p x) ∨
      ∃ before x rest, xs = before ++ x :: rest ∧ (∀ y ∈ before, p y) ∧ ¬ p x := by
  rcases hfind : xs.find? (fun x => !decide (p x)) with - | x
  · refine .inl fun x hx => ?_
    simpa using List.find?_eq_none.1 hfind x hx
  · obtain ⟨hx, before, rest, hxs, hbefore⟩ := List.find?_eq_some_iff_append.1 hfind
    refine .inr ⟨before, x, rest, hxs, fun y hy => ?_, ?_⟩
    · simpa using hbefore y hy
    · simpa using hx

/-- **Bad uploads are contained as long as every value fits a cell.**  Loading a file
is contained exactly if the file fits.  A batch in which every new upload is handled
is taken to its end.  Otherwise the first upload that is not handled stops the
drawing with an error about a value; the ones before it are taken, the ones behind
it are not, and all of them count as seen. -/
theorem uploads_contained (name : String) (content : FileContent) (settings : PageSettings)
    (v : Visit) (c : Canvas) (s : Shelf) :
    (Workbook.Contained name content ↔ content.Fits) ∧
      (((∀ u ∈ c.fresh v, u.Handled settings) ∧
          runOn (drawUploads settings v) (c.withShelf s)
            = (.ok (), (c.offered settings v).taking settings s (c.fresh v))) ∨
        ∃ before u rest e, c.fresh v = before ++ u :: rest ∧
          (∀ w ∈ before, w.Handled settings) ∧ ¬ u.Handled settings ∧
          Workbook.load u.name u.content = .error (.cell e) ∧
          runOn (drawUploads settings v) (c.withShelf s)
            = (.error (.failed (.shelf (.workbook (.cell e)))),
              (c.offered settings v).taking settings s before)) := by
  refine ⟨Workbook.contained_iff_fits name content, ?_⟩
  rw [runOn_drawUploads]
  -- all new uploads are handled, or there is a first one that is not, and it stops the run
  rcases forall_or_exists_first (Upload.Handled settings) (c.fresh v) with
    hall | ⟨before, u, rest, hfresh, hbefore, hu⟩
  · have hrun := runOn_forM_takeUpload hall [] (c.offered settings v) s
    rw [List.append_nil] at hrun
    exact .inl ⟨hall, hrun⟩
  · obtain ⟨e, hload, hstop⟩ := exists_runOn_takeUpload_of_not_handled hu
    refine .inr ⟨before, u, rest, e, hfresh, hbefore, hu, hload, ?_⟩
    rw [hfresh, runOn_forM_takeUpload hbefore]
    exact runOn_bind_error (hstop _ _) _

/-- A file with a number of 401 digits below a text. -/
def strayNumber : FileContent :=
  .other (.ok
    { grids := [("Ledger",
        { header := [.text "id"]
          rows := [[.text "A-1"], [.integer (.ofNat (Nat.pow 10 400))]]
          width_eq := by decide })]
      grids_ne_nil := List.cons_ne_nil _ _
      distinct := by decide })

/-- A file with one room. -/
def oneRoom : FileContent :=
  .workbook [{ name := "Rooms", header := [.text "room"], rows := [[.text "B2"]] }]

/-- A visit with two uploads, the first of which holds the number. -/
def strayVisit : Visit where
  uploads := [{ name := "ledger.xlsx", id := "1", content := strayNumber, size := 9000 },
    { name := "rooms.xlsx", id := "2", content := oneRoom, size := 8000 }]
  time := .naive { year := 2023, month := 11, day := 6 }
    { hour := 17, minute := 42, second := 31, microsecond := 52 }

/-- The number escapes.  Loading its file is not contained, the drawing stops, and the
second file, which can be loaded, is lost: it is seen, so a second visit does not
take it any more. -/
theorem loses_strayNumber :
    ¬ Workbook.Contained "ledger.xlsx" strayNumber ∧
      (∃ e, Workbook.load "ledger.xlsx" strayNumber = .error (.cell e)) ∧
      (∃ w, Workbook.load "rooms.xlsx" oneRoom = .ok w) ∧
      (visits {} [strayVisit, strayVisit]).map (fun o =>
          (o.stop.isSome, o.session.seen, o.session.shelf.map (·.fileNames))) =
        [(true, some ["2", "1"], some []), (false, some ["2", "1"], some [])] := by
  have hfits : ¬ strayNumber.Fits := by decide +kernel
  refine ⟨mt (Workbook.contained_iff_fits _ _).1 hfits, ?_, ⟨_, rfl⟩, by decide +kernel⟩
  rcases Workbook.load_cases "ledger.xlsx" strayNumber with ⟨h, -⟩ | ⟨-, h⟩
  · exact absurd h hfits
  · exact h

end Page

end TableQuery
