/-
TableQuery/Proofs/Page/Survival.lean

The page survives every session.

Nothing that can happen in a visit stops the page with an error: it comes to
its end, or it asks to be drawn anew.  The shelf carries the argument.  It is
consistent when a visit begins, and every part of the page keeps it so.  As
soon as a file is there the shelf is `Stocked`: something is in use, its name
is among the names on offer, and whatever is on offer can be chosen.  The
order of the parts matters where the choice of the file changes which sheets
are on offer; the sheets are read again after it.

The rest is where the hypotheses go.  Uploads must be `Manageable`, since a
value that cannot become a cell is no fault of the file and stops the page.
The settings must be those that come with the program.  No question without a
word is answered, because the normalized question is empty then.

Main result: `visits_survive`, by induction over the visits from the step
`ends_drawPage`.
-/
import TableQuery.Proofs.Page.Drawing
import TableQuery.Proofs.Question.Addressing
import TableQuery.Proofs.Settings.Containment
import TableQuery.Proofs.Shelf.Consistency

namespace TableQuery

open Text Drawing

/-! ### Settings that nothing overrides -/

section Settings

variable {environment : Environment}

/-- The settings of the page that come with the program are the defaults. -/
theorem loadInterface_shipped (h : Unset environment interfaceVariables) :
    loadInterface Shipped.interface environment = pure interfaceDefaults := by
  have hload : loadInterface Shipped.interface [] = pure interfaceDefaults := rfl
  rw [← hload, loadInterface, loadInterface]
  simp only [applyOverrides_of_unset h, applyOverrides_nil]

/-- The settings of questions that come with the program are the defaults. -/
theorem load_shipped (h : Unset environment limitVariables) :
    LoadedQuery.load Shipped.query environment = pure {} := by
  have hload : LoadedQuery.load Shipped.query [] = pure {} := rfl
  rw [← hload, LoadedQuery.load, LoadedQuery.load]
  simp only [applyOverrides_of_unset h, applyOverrides_nil]

end Settings

/-! ### What is on offer can be chosen -/

namespace Shelf

variable {s : Shelf}

/-- A consistent shelf with a workbook on it. -/
structure Stocked (s : Shelf) : Prop extends s.Consistent where
  workbooks_ne_nil : s.workbooks ≠ []

/-- On a stocked shelf something is in use, and it is stored. -/
theorem Stocked.exists_selection (hs : s.Stocked) :
    ∃ x w, s.selection = some x ∧ getNamed? x.file s.workbooks = some w ∧
      w.table x.sheet = .ok x.table := by
  rcases hx : s.selection with - | x
  · exact absurd (hs.selects hx) hs.workbooks_ne_nil
  · obtain ⟨w, hw, ht⟩ := hs.current hx
    exact ⟨x, w, rfl, hw, ht⟩

/-- The file in use is on offer. -/
theorem Stocked.exists_file (hs : s.Stocked) :
    ∃ file, s.selectedFile? = some file ∧ file ∈ s.fileNames := by
  obtain ⟨x, w, hx, hw, -⟩ := hs.exists_selection
  exact ⟨x.file, selectedFile?_of_some hx, mem_namesOf_iff.2 ⟨w, hw⟩⟩

/-- The sheet in use is on offer. -/
theorem Stocked.exists_sheet (hs : s.Stocked) :
    ∃ sheet, s.selectedSheet? = some sheet ∧ sheet ∈ s.sheetNames := by
  obtain ⟨x, w, hx, hw, ht⟩ := hs.exists_selection
  refine ⟨x.sheet, selectedSheet?_of_some hx, ?_⟩
  rw [sheetNames_of_some hx hw]
  exact Workbook.mem_sheetNames_iff.2 ⟨x.table, ht⟩

theorem Stocked.runOn_selectFile (hs : s.Stocked) {name : String} (h : name ∈ s.fileNames) :
    ∃ t, runOn (selectFile name) s = (.ok (), t) ∧ t.Stocked := by
  obtain ⟨w, hw⟩ := mem_namesOf_iff.1 h
  exact ⟨_, perform_selectFile_of_some hw, hs.select hw w.table_firstSheet, hs.workbooks_ne_nil⟩

theorem Stocked.runOn_selectSheet (hs : s.Stocked) {sheet : String} (h : sheet ∈ s.sheetNames) :
    ∃ t, runOn (selectSheet sheet) s = (.ok (), t) ∧ t.Stocked := by
  obtain ⟨x, w, hx, hw, -⟩ := hs.exists_selection
  rw [sheetNames_of_some hx hw] at h
  obtain ⟨t, ht⟩ := Workbook.mem_sheetNames_iff.1 h
  have hrun : s.perform (.selectSheet sheet) = _ := perform_selectSheet_of_some hx hw
  rw [ht] at hrun
  exact ⟨_, hrun, hs.select hw ht, hs.workbooks_ne_nil⟩

theorem Consistent.runOn_remove (hs : s.Consistent) {name : String} (h : name ∈ s.fileNames) :
    ∃ t, runOn (Shelf.remove name) s = (.ok (), t) ∧ t.Consistent := by
  obtain ⟨w, hw⟩ := mem_namesOf_iff.1 h
  exact ⟨_, perform_remove_of_some hw, hs.without name⟩

theorem Consistent.runOn_add (hs : s.Consistent) {name : String} {content : FileContent}
    {w : Workbook} (h : Workbook.load name content = .ok w) :
    ∃ t, runOn (Shelf.add name content) s = (.ok w, t) ∧ t.Consistent := by
  refine ⟨_, runOn_add_of_ok h s, ?_⟩
  rw [← Workbook.name_of_load h]
  exact hs.add w

/-- The table in use is the stored table of the file and the sheet in use;
while nothing is stored, nothing is in use. -/
def ShowsStored (s : Shelf) : Prop :=
  (s.workbooks = [] ∧ s.selectedFile? = none ∧ s.selectedSheet? = none ∧ s.activeTable? = none) ∨
    ∃ file sheet table w, s.selectedFile? = some file ∧ s.selectedSheet? = some sheet ∧
      s.activeTable? = some table ∧ getNamed? file s.workbooks = some w ∧
        w.table sheet = .ok table

theorem Consistent.showsStored (hs : s.Consistent) : s.ShowsStored := by
  rcases hx : s.selection with - | x
  · refine .inl ⟨hs.selects hx, ?_⟩
    rw [selectedFile?, selectedSheet?, activeTable?, hx]
    exact ⟨rfl, rfl, rfl⟩
  · obtain ⟨w, hw, ht⟩ := hs.current hx
    exact .inr ⟨x.file, x.sheet, x.table, w, selectedFile?_of_some hx, selectedSheet?_of_some hx,
      activeTable?_of_some hx, hw, ht⟩

end Shelf

theorem Shelf.exists_ask_eq_ok (s : Shelf) {query : String} (h : HasWord query)
    (settings : QuerySettings) (maxRows : Int) (time : Moment) :
    ∃ inquiry, s.ask settings query maxRows time = .ok inquiry := by
  obtain ⟨a, ha⟩ := exists_interpret_eq_ok h settings s.activeTable?
  rw [Shelf.ask, ha]
  exact ⟨_, rfl⟩

/-! ### Visits -/

/-- An upload that the page can deal with: it is larger than what is allowed,
or it holds a workbook, or it holds none and the file is to blame. -/
def Upload.Manageable (settings : PageSettings) (u : Upload) : Prop :=
  settings.maxUploadMegabytes * 1024 * 1024 < u.size ∨
    (∃ w, Workbook.load u.name u.content = .ok w) ∨
      ∃ e, Workbook.load u.name u.content = .error e ∧ e.isOfFile = true

/-- A visit with manageable uploads in which no variable overrides the settings
that come with the program.  The fields and buttons report whatever they
like; a pick that is not on offer counts as none. -/
structure Visit.Ordinary (v : Visit) : Prop where
  interfaceUnset : Unset v.environment interfaceVariables
  limitsUnset : Unset v.environment limitVariables
  manageable : ∀ u ∈ v.uploads, u.Manageable {}

namespace Page

variable {P : Shelf → Prop} {p : Session → Prop} {settings : PageSettings}
  {querySettings : QuerySettings} {v : Visit} {stopped : PageStop → Canvas → Prop}

/-! ### Sidebar -/

theorem ends_takeUpload {u : Upload} (h : u.Manageable settings) :
    Ends (OnShelf Shelf.Consistent) (takeUpload settings u)
      (fun _ => OnShelf Shelf.Consistent) stopped := by
  rw [takeUpload]
  by_cases hsize : settings.maxUploadMegabytes * 1024 * 1024 < u.size
  · rw [if_pos hsize]
    exact ends_draw _
  · rw [if_neg hsize]
    -- the three ways in which an upload is manageable
    rcases h with hlarge | ⟨w, hw⟩ | ⟨e, he, hfile⟩
    · exact absurd hlarge hsize
    · refine (ends_tryShelf fun s hs => hs.runOn_add hw).bind_known ?_
      exact .pure fun _ hc => hc
    · -- the failed action leaves the shelf alone, and only its report is drawn
      refine (ends_tryShelf fun s hs => ⟨s, Shelf.runOn_add_of_error he s, hs⟩).bind_known ?_
      show Ends _ (if e.isOfFile then _ else _) _ _
      rw [if_pos hfile]
      exact ends_draw _

theorem ends_drawUploads (h : ∀ u ∈ v.uploads, u.Manageable settings) :
    Ends (OnShelf Shelf.Consistent) (drawUploads settings v)
      (fun _ => OnShelf Shelf.Consistent) stopped := by
  refine (ends_draw _).bind fun _ => ends_session.bind fun session => ?_
  show Ends _ (change _ >>= fun _ => List.forM (freshUploads _ v.uploads) _) _ _
  refine Ends.bind (ends_change fun _ => rfl) fun _ => Ends.forM fun u hu => ?_
  exact ends_takeUpload (h u (List.mem_filter.1 hu).1)

/-- A choice with something in use that is on offer yields something that is on
offer. -/
theorem ends_choose {label name : String} {options : List String} {inUse : Option String}
    (picked : Option String) (hname : inUse = some name) (hmem : name ∈ options) :
    Ends (OnSession p) (choose label options inUse picked)
      (fun choice c => choice ∈ options ∧ OnSession p c) stopped := by
  obtain ⟨index, hindex⟩ : ∃ index, options.idxOf? name = some index :=
    Option.isSome_iff_exists.1 (List.isSome_idxOf?.2 hmem)
  subst hname
  simp only [choose, hindex]
  refine (ends_draw _).bind fun _ => ?_
  rcases picked with - | pick
  · exact .pure fun _ hc => ⟨hmem, hc⟩
  · refine .pure fun _ hc => ⟨?_, hc⟩
    -- a pick that is not on offer counts as none
    by_cases hpick : pick ∈ options
    · rw [if_pos (List.contains_iff_mem.2 hpick)]
      exact hpick
    · rw [if_neg (fun h => hpick (List.contains_iff_mem.1 h))]
      exact hmem

theorem ends_drawFileChoice :
    Ends (OnShelf Shelf.Stocked) (drawFileChoice v) (fun _ => OnShelf Shelf.Stocked) stopped := by
  refine ends_shelf_known.bind fun s => .assuming fun hs => ?_
  obtain ⟨file, hfile, hmem⟩ := hs.exists_file
  refine (ends_choose v.file hfile hmem).bind fun name => .assuming fun hname => ?_
  exact ends_onShelf_if hs (hs.runOn_selectFile hname)

/-- The sheets on offer are those of the file that is in use by now. -/
theorem ends_drawSheetChoice :
    Ends (OnShelf Shelf.Stocked) (drawSheetChoice v) (fun _ => OnShelf Shelf.Stocked) stopped := by
  refine ends_shelf_known.bind fun s => .assuming fun hs => ?_
  obtain ⟨sheet, hsheet, hmem⟩ := hs.exists_sheet
  refine (ends_choose v.sheet hsheet hmem).bind fun name => .assuming fun hname => ?_
  exact ends_onShelf_if hs (hs.runOn_selectSheet hname)

/-- Where a visit may stop: for a fresh start, on a consistent shelf. -/
def Restarts (stop : PageStop) (c : Canvas) : Prop :=
  stop = .rerun ∧ OnShelf Shelf.Consistent c

theorem ends_drawRemoval :
    Ends (OnShelf Shelf.Stocked) (drawRemoval v) (fun _ => OnShelf Shelf.Consistent)
      Restarts := by
  refine (ends_draw _).bind fun _ => ?_
  rcases v.removes with - | -
  · exact .pure fun _ hc => OnShelf.mono (fun _ hs => hs.toConsistent) hc
  · refine ends_shelf_known.bind fun s => .assuming fun hs => ?_
    obtain ⟨file, hfile, hmem⟩ := hs.exists_file
    simp only [hfile]
    refine Ends.bind (ends_onShelf (a := ()) ?_) fun _ => ends_rerun
    rintro _ rfl
    exact hs.runOn_remove hmem

theorem ends_drawSidebar (h : ∀ u ∈ v.uploads, u.Manageable settings) :
    Ends (OnShelf Shelf.Consistent) (drawSidebar settings v)
      (fun _ => OnShelf Shelf.Consistent) Restarts := by
  refine (ends_draw _).bind fun _ => (ends_drawUploads h).bind fun _ => ?_
  refine ends_shelf_known.bind fun s => .assuming fun hs => ?_
  rcases hempty : s.fileNames.isEmpty with - | -
  · -- with a file there is something in use, and the three fields are drawn
    have hne : s.workbooks ≠ [] := by
      intro hnil
      rw [Shelf.fileNames, hnil] at hempty
      cases hempty
    refine Ends.of_before ?_ fun _ hc => OnShelf.of_eq (⟨hs, hne⟩ : s.Stocked) hc
    exact ends_drawFileChoice.bind fun _ => ends_drawSheetChoice.bind fun _ => ends_drawRemoval
  · exact (ends_draw _).of_after fun _ _ hc => OnShelf.of_eq hs hc

/-! ### Overview and history -/

theorem ends_drawOverview : Ends (OnShelf P) drawOverview (fun _ => OnShelf P) stopped := by
  refine ends_shelf.bind fun s => ?_
  rcases s.activeTable? with - | table
  · exact .pure fun _ hc => hc
  · exact ends_block _ ((ends_draw _).bind fun _ => ends_draw _)

theorem ends_drawMessage (role text : String) :
    Ends (OnSession p) (drawMessage role text) (fun _ => OnSession p) stopped :=
  ends_block _ (ends_draw _)

theorem ends_drawHistory : Ends (OnSession p) drawHistory (fun _ => OnSession p) stopped :=
  ends_session.bind fun _ => Ends.forM fun _ _ =>
    (ends_drawMessage _ _).bind fun _ => ends_drawMessage _ _

theorem ends_drawControls :
    Ends (OnShelf Shelf.Consistent) (drawControls v)
      (fun _ => OnShelf Shelf.Consistent) Restarts := by
  refine ends_session.bind fun session => ?_
  show Ends _ (if (!session.history.isEmpty) = true then _ else _) _ _
  rcases session.history.isEmpty with - | -
  · refine (ends_draw _).bind fun _ => (ends_block _ (ends_draw _)).bind fun _ => ?_
    refine ends_block _ ((ends_draw _).bind fun _ => ?_)
    rcases v.clears with - | -
    · exact .pure fun _ hc => hc
    · exact Ends.bind (ends_change fun _ => rfl) fun _ => ends_rerun
  · exact .pure fun _ hc => hc

/-! ### Questions -/

theorem ends_answer {query : String} (h : HasWord query) :
    Ends (OnShelf P) (answer settings querySettings v query) (fun _ => OnShelf P) stopped := by
  refine ends_shelf.bind fun s => ?_
  -- asking does not fail, so the exchange is kept and drawn
  obtain ⟨inquiry, hinquiry⟩ := s.exists_ask_eq_ok h querySettings settings.previewRows v.time
  simp only [hinquiry]
  refine Ends.bind (ends_change fun _ => rfl) fun _ => (ends_drawMessage _ _).bind fun _ => ?_
  refine ends_block _ ((ends_draw _).bind fun _ => ?_)
  by_cases hmore : settings.previewRows < inquiry.answer.rowCount
  · rw [if_pos hmore]
    exact ends_draw _
  · rw [if_neg hmore]
    exact .pure fun _ hc => hc

theorem ends_drawConversation :
    Ends (OnShelf Shelf.Consistent) (drawConversation settings querySettings v)
      (fun _ => OnShelf Shelf.Consistent) Restarts := by
  refine ends_shelf.bind fun s => ?_
  refine (ends_draw _).bind fun _ => ?_
  rcases asked? v s.activeTable?.isNone with - | text
  · exact ends_drawControls
  · show Ends _ (if normalizeQuestion (some text) ≠ "" then _ else _) _ _
    by_cases hquery : normalizeQuestion (some text) ≠ ""
    · rw [if_pos hquery]
      exact (ends_answer (hasWord_normalizeQuestion hquery)).bind fun _ => ends_drawControls
    · -- the drawing ends with a question without a word
      rw [if_neg hquery]
      exact .pure fun _ hc => hc

/-! ### A visit -/

theorem ends_loadSettings (h : Unset v.environment interfaceVariables) :
    Ends (OnSession p) (loadSettings v) (fun settings c => settings = {} ∧ OnSession p c)
      stopped := by
  rw [loadSettings, loadInterface_shipped h]
  exact (ends_takeLoaded rfl).bind_known (.pure fun _ hc => ⟨rfl, hc⟩)

theorem ends_questionSettings (h : Unset v.environment limitVariables) :
    Ends (OnShelf P) (questionSettings v) (fun _ => OnShelf P) stopped := by
  refine ends_session.bind fun session => ?_
  rcases session.settings with - | settings
  · rw [load_shipped h]
    refine (ends_takeLoaded rfl).bind_known ?_
    exact Ends.bind (ends_change fun _ => rfl) fun _ => .pure fun _ hc => hc
  · exact .pure fun _ hc => hc

/-- A session between two visits: what it keeps of the shelf is consistent. -/
def Settled (session : Session) : Prop := (session.shelf.getD {}).Consistent

theorem ends_drawPage (hv : v.Ordinary) :
    Ends (OnSession Settled) (drawPage v) (fun _ => OnShelf Shelf.Consistent) Restarts := by
  refine (ends_loadSettings hv.interfaceUnset).bind_known ?_
  refine (ends_draw _).bind fun _ => (ends_draw _).bind fun _ => ?_
  -- from here on the shelf is there, new or kept
  have hshelf : Ends (OnSession Settled)
      (change fun s => { s with shelf := some (s.shelf.getD {}) })
      (fun _ => OnShelf Shelf.Consistent) Restarts := ⟨fun c hc => ⟨_, rfl, hc⟩⟩
  refine hshelf.bind fun _ => (ends_questionSettings hv.limitsUnset).bind fun _ => ?_
  refine (ends_drawSidebar hv.manageable).bind fun _ => ends_drawOverview.bind fun _ => ?_
  exact ends_drawHistory.bind fun _ => ends_drawConversation

theorem visit_eq (session : Session) (v : Visit) :
    visit session v =
      { session := (runOn (drawPage v) { session }).2.session
        drawn := (runOn (drawPage v) { session }).2.drawn
        warnings := (runOn (drawPage v) { session }).2.warnings
        stop := match (runOn (drawPage v) { session }).1 with
          | .ok _ => none
          | .error stop => some stop } := rfl

/-- How a visit leaves the page: it came to its end or asks for a fresh start,
and there is a consistent shelf. -/
structure Outcome.Sound (o : Outcome) : Prop where
  stop : o.stop = none ∨ o.stop = some .rerun
  shelf : ∃ s, o.session.shelf = some s ∧ s.Consistent

/-- **One visit** of a settled session. -/
theorem sound_visit {session : Session} (hv : v.Ordinary) (hs : Settled session) :
    (visit session v).Sound := by
  have hend := (ends_drawPage hv).run { session } hs
  rw [visit_eq]
  rcases hrun : runOn (drawPage v) { session } with ⟨stop | _, c⟩
  · rw [hrun] at hend
    obtain ⟨hstop, hshelf⟩ := hend
    exact ⟨.inr (congrArg some hstop), hshelf⟩
  · rw [hrun] at hend
    exact ⟨.inl rfl, hend⟩

theorem Outcome.Sound.settled {o : Outcome} (h : o.Sound) :
    Settled o.session := by
  obtain ⟨s, hshelf, hs⟩ := h.shelf
  rw [Settled, hshelf]
  exact hs

/-- **A run of visits** of a settled session. -/
theorem sound_visits {session : Session} {vs : List Visit} (hvs : ∀ v ∈ vs, v.Ordinary)
    (hs : Settled session) : ∀ o ∈ visits session vs, o.Sound := by
  -- induction on the visits: a sound visit leaves a settled session to the next
  induction vs generalizing session with
  | nil =>
    intro o ho
    cases ho
  | cons v rest ih =>
    obtain ⟨hv, hrest⟩ := List.forall_mem_cons.1 hvs
    have hfirst : (visit session v).Sound := sound_visit hv hs
    exact List.forall_mem_cons.2 ⟨hfirst, ih hrest hfirst.settled⟩

/-- **The page survives every session.**  However often it is visited, each
visit comes to its end or asks for a fresh start: no name is looked up in vain
and no empty question is asked.  After each visit the table in use is the
stored table of the file and the sheet in use. -/
theorem visits_survive {vs : List Visit} (h : ∀ v ∈ vs, v.Ordinary) :
    ∀ o ∈ visits {} vs, (o.stop = none ∨ o.stop = some .rerun) ∧
      ∃ s, o.session.shelf = some s ∧ s.ShowsStored := by
  intro o ho
  have hempty : Settled {} := Shelf.consistent_empty
  obtain ⟨hstop, s, hshelf, hs⟩ := sound_visits h hempty o ho
  exact ⟨hstop, s, hshelf, hs.showsStored⟩

/-- Uploads of every kind: one that is too large, one that is no workbook, and
two workbooks. -/
def mixedUploads : List Upload :=
  [{ name := "archive.xlsx", id := "1", content := .plain, size := 60000000 },
    { name := "notes.xlsx", id := "2", content := .plain, size := 300 },
    { name := "tests.xlsx", id := "3", size := 9000
      content := .workbook
        [{ name := "March", header := [.text "status"], rows := [[.text "ok"], [.text "fail"]] },
          { name := "April", header := [.text "status"], rows := [] }] },
    { name := "rooms.xlsx", id := "4", size := 8000
      content := .workbook
        [{ name := "Rooms", header := [.text "room"], rows := [[.text "B2"]] }] }]

/-- A session in which files are uploaded, another sheet is picked, questions
with and without words are asked, and a file is removed. -/
def busySession : List Visit :=
  let time : Moment := .naive { year := 2024, month := 2, day := 29 }
    { hour := 8, minute := 15, second := 0, microsecond := 0 }
  [{ uploads := mixedUploads, question := some "show B2", time },
    { uploads := mixedUploads, file := some "tests.xlsx", sheet := some "April"
      question := some "sort by status", time },
    { uploads := mixedUploads, question := some "  ", time },
    { uploads := mixedUploads, removes := true, time },
    { uploads := mixedUploads, clears := true, time }]

/-- Two of these visits ask for a fresh start: the one that removes the file
that is in use, on the sheet that was picked, and the one that clears the
history. -/
theorem visits_survive_busySession :
    (∀ v ∈ busySession, v.Ordinary) ∧
      (visits {} busySession).map (fun o =>
          (o.stop.isSome, o.session.shelf.bind (·.selectedFile?),
            o.session.shelf.bind (·.selectedSheet?))) =
        [(false, some "rooms.xlsx", some "Rooms"), (false, some "tests.xlsx", some "April"),
          (false, some "tests.xlsx", some "April"), (true, some "rooms.xlsx", some "Rooms"),
          (true, some "rooms.xlsx", some "Rooms")] ∧
      ∀ o ∈ visits {} busySession, (o.stop = none ∨ o.stop = some .rerun) ∧
        ∃ s, o.session.shelf = some s ∧ s.ShowsStored := by
  have huploads : ∀ u ∈ mixedUploads, u.Manageable {} := by
    simp only [mixedUploads, List.forall_mem_cons]
    exact ⟨.inl (by decide), .inr (.inr ⟨_, rfl, rfl⟩), .inr (.inl ⟨_, rfl⟩), .inr (.inl ⟨_, rfl⟩),
      List.forall_mem_nil _⟩
  have hcommon : ∀ v ∈ busySession, v.environment = [] ∧ v.uploads = mixedUploads := by
    simp [busySession]
  have hordinary : ∀ v ∈ busySession, v.Ordinary := by
    intro v hv
    obtain ⟨henvironment, hmixed⟩ := hcommon v hv
    refine ⟨?_, ?_, ?_⟩
    · rw [henvironment]
      exact fun _ _ => rfl
    · rw [henvironment]
      exact fun _ _ => rfl
    · rw [hmixed]
      exact huploads
  exact ⟨hordinary, by decide +kernel, visits_survive hordinary⟩

end Page

end TableQuery
