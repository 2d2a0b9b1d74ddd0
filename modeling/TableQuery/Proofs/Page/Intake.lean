/-
TableQuery/Proofs/Page/Intake.lean

What the page takes in over its visits.

The page has one field for uploads, and everything that has to do with what has
been seen happens there: the field is drawn, what is new in its report is seen, and
then it is handed out.  All other parts are `Aside`: they do not draw the field and
leave alone what has been seen.  So a visit either comes as far as the field and takes in
its report, whatever becomes of the visit after that, or it stops above the field
and its report is not taken in (`intake_visit`).

Over many visits the page has therefore seen what a series of reports leaves seen
(`seen_sessionFrom`): those of the visits that come as far as the field.

Main result: `uploads_handedOutOnce`.
-/
import TableQuery.Proofs.Page.Survival
import TableQuery.Proofs.Upload

namespace TableQuery

open Drawing

/-- Whether an element is the field for uploads. -/
def PageElement.isUploader : PageElement → Bool
  | .fileUploader .. => true
  | _ => false

namespace Page

/-! ### Parts that are aside -/

/-- What has been seen, and whether the field for uploads has been drawn. -/
structure Intake (seen : Option (List String)) (offered : Bool) (c : Canvas) : Prop where
  seen : c.session.seen = seen
  offered : c.drawn.any (·.isUploader) = offered

/-- Whether it stops or not, a part of the page draws no field for uploads and leaves
alone what has been seen. -/
def Aside {α : Type} (part : Drawing α) : Prop :=
  ∀ seen offered, Ends (Intake seen offered) part (fun _ => Intake seen offered)
    (fun _ => Intake seen offered)

section Steps

variable {α β : Type}

theorem aside_pure (a : α) : Aside (pure a) := fun _ _ => .pure fun _ hc => hc

theorem aside_throw (stop : PageStop) : Aside (throw stop : Drawing α) :=
  fun _ _ => Ends.throw fun _ hc => hc

theorem Aside.bind {first : Drawing α} {next : α → Drawing β} (hfirst : Aside first)
    (hnext : ∀ a, Aside (next a)) : Aside (first >>= next) :=
  fun seen offered => (hfirst seen offered).bind fun a => hnext a seen offered

theorem aside_forM {xs : List α} {body : α → Drawing Unit} (h : ∀ x, Aside (body x)) :
    Aside (xs.forM body) :=
  fun seen offered => Ends.forM fun x _ => h x seen offered

theorem aside_if {condition : Prop} [Decidable condition] {first second : Drawing α}
    (hfirst : Aside first) (hsecond : Aside second) :
    Aside (if condition then first else second) := by
  split
  · exact hfirst
  · exact hsecond

theorem aside_draw {e : PageElement} (he : e.isUploader = false) : Aside (draw e) := by
  refine fun seen offered => ⟨fun c hc => ⟨hc.seen, ?_⟩⟩
  show (c.drawn ++ [e]).any (·.isUploader) = offered
  rw [List.any_append, hc.offered, List.any_cons, he, List.any_nil, Bool.or_false, Bool.or_false]

theorem aside_block {opening : PageElement} {content : Drawing Unit}
    (hopening : opening.isUploader = false) (hcontent : Aside content) :
    Aside (block opening content) :=
  (aside_draw hopening).bind fun _ => hcontent.bind fun _ => aside_draw rfl

theorem aside_rerun : Aside rerun := (aside_draw rfl).bind fun _ => aside_throw _

theorem aside_session : Aside session := fun _ _ => ⟨fun _ hc => hc⟩

theorem aside_shelf : Aside shelf := fun _ _ => ⟨fun _ hc => hc⟩

/-- A change of anything but what has been seen. -/
theorem aside_change {f : Session → Session} (h : ∀ s, (f s).seen = s.seen) :
    Aside (change f) :=
  fun _ _ => ⟨fun c hc => ⟨(h c.session).trans hc.seen, hc.offered⟩⟩

theorem aside_takeLoaded (loaded : Loaded α) : Aside (takeLoaded loaded) := by
  rcases hloaded : loaded.outcome with e | a
  · rw [takeLoaded, hloaded]
    exact fun _ _ => ⟨fun _ hc => ⟨hc.seen, hc.offered⟩⟩
  · rw [takeLoaded, hloaded]
    exact fun _ _ => ⟨fun _ hc => ⟨hc.seen, hc.offered⟩⟩

theorem aside_tryShelf (action : ShelfAction α) : Aside (tryShelf action) :=
  fun _ _ => ⟨fun _ hc => ⟨hc.seen, hc.offered⟩⟩

theorem aside_onShelf (action : ShelfAction α) : Aside (onShelf action) := by
  refine (aside_tryShelf action).bind fun result => ?_
  rcases result with e | a
  · exact aside_throw _
  · exact aside_pure _

end Steps

/-! ### Parts of the page -/

section Parts

variable (settings : PageSettings) (querySettings : QuerySettings) (v : Visit)

theorem aside_loadSettings : Aside (loadSettings v) := by
  refine (aside_takeLoaded _).bind fun table => ?_
  rcases PageSettings.ofTable? table with - | settings
  · exact aside_throw _
  · exact aside_pure _

theorem aside_questionSettings : Aside (questionSettings v) := by
  refine aside_session.bind fun s => ?_
  rcases s.settings with - | used
  · refine (aside_takeLoaded _).bind fun loaded => ?_
    rcases loaded.settings? with - | used
    · exact aside_throw _
    · exact Aside.bind (aside_change fun _ => rfl) fun _ => aside_pure _
  · exact aside_pure _

/-- What becomes of an upload that is handed out has no part in what has been seen. -/
theorem aside_takeUpload (u : Upload) : Aside (takeUpload settings u) := by
  refine aside_if (aside_draw rfl) ((aside_tryShelf _).bind fun result => ?_)
  rcases result with e | w
  · cases e with
    | workbook e => exact aside_if (aside_draw rfl) (aside_throw _)
    | _ => exact aside_throw _
  · exact aside_pure _

theorem aside_choose (label : String) (options : List String) (inUse picked : Option String) :
    Aside (choose label options inUse picked) := by
  rcases inUse with - | name
  · exact aside_throw _
  · rcases hindex : options.idxOf? name with - | index
    · simp only [choose, hindex]
      exact aside_throw _
    · simp only [choose, hindex]
      refine (aside_draw rfl).bind fun _ => ?_
      rcases picked with - | pick
      · exact aside_pure _
      · exact aside_pure _

theorem aside_drawFileChoice : Aside (drawFileChoice v) := by
  refine aside_shelf.bind fun _ => (aside_choose _ _ _ _).bind fun _ => ?_
  exact aside_if (aside_onShelf _) (aside_pure _)

theorem aside_drawSheetChoice : Aside (drawSheetChoice v) := by
  refine aside_shelf.bind fun _ => (aside_choose _ _ _ _).bind fun _ => ?_
  exact aside_if (aside_onShelf _) (aside_pure _)

theorem aside_drawRemoval : Aside (drawRemoval v) := by
  refine (aside_draw rfl).bind fun _ => aside_if (aside_shelf.bind fun s => ?_) (aside_pure _)
  rcases s.selectedFile? with - | name
  · exact Aside.bind (aside_throw _) fun _ => aside_rerun
  · exact (aside_onShelf _).bind fun _ => aside_rerun

theorem aside_drawOverview : Aside drawOverview := by
  refine aside_shelf.bind fun s => ?_
  rcases s.activeTable? with - | table
  · exact aside_pure _
  · exact aside_block rfl ((aside_draw rfl).bind fun _ => aside_draw rfl)

theorem aside_drawMessage (role text : String) : Aside (drawMessage role text) :=
  aside_block rfl (aside_draw rfl)

theorem aside_drawHistory : Aside drawHistory :=
  aside_session.bind fun _ => aside_forM fun _ =>
    (aside_drawMessage _ _).bind fun _ => aside_drawMessage _ _

theorem aside_drawControls : Aside (drawControls v) := by
  refine aside_session.bind fun s => aside_if ?_ (aside_pure _)
  refine (aside_draw rfl).bind fun _ => (aside_block rfl (aside_draw rfl)).bind fun _ => ?_
  refine aside_block rfl ((aside_draw rfl).bind fun _ => aside_if ?_ (aside_pure _))
  exact Aside.bind (aside_change fun _ => rfl) fun _ => aside_rerun

theorem aside_answer (query : String) : Aside (answer settings querySettings v query) := by
  refine aside_shelf.bind fun s => ?_
  rcases s.ask querySettings query settings.previewRows v.time with e | inquiry
  · exact aside_throw _
  · refine Aside.bind (aside_change fun _ => rfl) fun _ => (aside_drawMessage _ _).bind fun _ => ?_
    exact aside_block rfl ((aside_draw rfl).bind fun _ => aside_if (aside_draw rfl) (aside_pure _))

theorem aside_drawConversation : Aside (drawConversation settings querySettings v) := by
  refine aside_shelf.bind fun s => (aside_draw rfl).bind fun _ => ?_
  rcases asked? v s.activeTable?.isNone with - | text
  · exact aside_drawControls v
  · refine aside_if ?_ (aside_pure _)
    exact (aside_answer settings querySettings v _).bind fun _ => aside_drawControls v

/-- The sidebar below the field for uploads. -/
theorem aside_choices (empty : Bool) :
    Aside (if empty = true then draw (.sidebarInfo "Upload a workbook to get started.")
      else do drawFileChoice v; drawSheetChoice v; drawRemoval v) :=
  aside_if (aside_draw rfl) ((aside_drawFileChoice v).bind fun _ =>
    (aside_drawSheetChoice v).bind fun _ => aside_drawRemoval v)

end Parts

/-! ### A visit -/

section Visits

variable {settings : PageSettings} {v : Visit} {seen : Option (List String)}

/-- What has been seen once a visit's report is taken in. -/
def seenWith (seen : Option (List String)) (v : Visit) : Option (List String) :=
  some (takeIn (seen.getD []) v.uploads)

/-- **The field for uploads** takes in the report, also if an upload stops it. -/
theorem ends_drawUploads_intake :
    Ends (Intake seen false) (drawUploads settings v) (fun _ => Intake (seenWith seen v) true)
      (fun _ => Intake (seenWith seen v) true) := by
  refine ⟨fun c hc => ?_⟩
  -- the uploads are marked as seen and the uploader is drawn before any of them is taken
  let taken : Canvas :=
    { c with
      session := { c.session with seen := seenWith c.session.seen v }
      drawn := c.drawn ++ [.fileUploader "Upload Excel files" ["xlsx"] true
        ("Maximum file size: " ++ integerText settings.maxUploadMegabytes ++ "MB")] }
  have htaken : Intake (seenWith seen v) true taken := by
    refine ⟨congrArg (seenWith · v) hc.seen, ?_⟩
    show (c.drawn ++ _).any (·.isUploader) = true
    rw [List.any_append, List.any_cons]
    exact Bool.or_true _
  have hrun : runOn (drawUploads settings v) c
      = runOn ((freshUploads (c.session.seen.getD []) v.uploads).forM (takeUpload settings)) taken :=
    rfl
  rw [hrun]
  exact (aside_forM (aside_takeUpload settings) _ _).run taken htaken

/-- A drawing stops before the field for uploads or behind it. -/
def StopsAside (seen : Option (List String)) (v : Visit) (_ : PageStop) (c : Canvas) : Prop :=
  Intake seen false c ∨ Intake (seenWith seen v) true c

/-- A part above the field for uploads. -/
theorem Aside.above {α : Type} {part : Drawing α} (h : Aside part) :
    Ends (Intake seen false) part (fun _ => Intake seen false) (StopsAside seen v) :=
  (h seen false).of_stopped fun _ _ => .inl

/-- A part below the field for uploads. -/
theorem Aside.below {α : Type} {part : Drawing α} (h : Aside part) :
    Ends (Intake (seenWith seen v) true) part (fun _ => Intake (seenWith seen v) true)
      (StopsAside seen v) :=
  (h (seenWith seen v) true).of_stopped fun _ _ => .inr

theorem ends_drawPage_intake :
    Ends (Intake seen false) (drawPage v) (fun _ => Intake (seenWith seen v) true)
      (StopsAside seen v) := by
  refine (aside_loadSettings v).above.bind fun settings => ?_
  refine (aside_draw rfl).above.bind fun _ => (aside_draw rfl).above.bind fun _ => ?_
  have hshelf : Aside (change fun s => { s with shelf := some (s.shelf.getD {}) }) :=
    aside_change fun _ => rfl
  refine hshelf.above.bind fun _ => ?_
  refine (aside_questionSettings v).above.bind fun querySettings => ?_
  -- the uploader is in the sidebar: above it nothing is seen yet, below it all is
  have hsidebar : Ends (Intake seen false) (drawSidebar settings v)
      (fun _ => Intake (seenWith seen v) true) (StopsAside seen v) := by
    refine (aside_draw rfl).above.bind fun _ => ?_
    refine (ends_drawUploads_intake.of_stopped fun _ _ => .inr).bind fun _ => ?_
    exact aside_shelf.below.bind fun s => (aside_choices v s.fileNames.isEmpty).below
  refine hsidebar.bind fun _ => aside_drawOverview.below.bind fun _ => ?_
  exact aside_drawHistory.below.bind fun _ =>
    (aside_drawConversation settings querySettings v).below

/-- The field for uploads is drawn. -/
def Outcome.offersUploads (o : Outcome) : Bool := o.drawn.any (·.isUploader)

/-- **One visit** takes in its report exactly if it draws the field for uploads. -/
theorem intake_visit (session : Session) (v : Visit) :
    (visit session v).session.seen
      = if (visit session v).offersUploads then seenWith session.seen v else session.seen := by
  have hstart : Intake session.seen false { session } := ⟨rfl, rfl⟩
  have hend := (ends_drawPage_intake (v := v)).run { session } hstart
  -- a drawing that ends is past the uploader; one that stops may have stopped above it
  have hboth : Intake session.seen false (runOn (drawPage v) { session }).2 ∨
      Intake (seenWith session.seen v) true (runOn (drawPage v) { session }).2 := by
    rcases hrun : runOn (drawPage v) { session } with ⟨stop | _, c⟩
    · rw [hrun] at hend
      exact hend
    · rw [hrun] at hend
      exact .inr hend
  rw [visit_eq, Outcome.offersUploads]
  rcases hboth with habove | hbelow
  · rw [habove.seen, habove.offered, if_neg Bool.false_ne_true]
  · rw [hbelow.seen, hbelow.offered, if_pos rfl]

end Visits

/-! ### Visits one after another -/

/-- The session after some visits. -/
def sessionFrom (session : Session) (vs : List Visit) : Session :=
  vs.foldl (fun s v => (visit s v).session) session

/-- The reports of the visits that come as far as the field for uploads. -/
def reports (session : Session) : List Visit → List (List Upload)
  | [] => []
  | v :: later =>
    if (visit session v).offersUploads then v.uploads :: reports (visit session v).session later
    else reports (visit session v).session later

/-- **What the page has seen** after some visits is what their reports leave seen. -/
theorem seen_sessionFrom (session : Session) (vs : List Visit) :
    (sessionFrom session vs).seen.getD [] = seenAfter (session.seen.getD []) (reports session vs) := by
  induction vs generalizing session with
  | nil => rfl
  | cons v later ih =>
    show (sessionFrom (visit session v).session later).seen.getD [] = _
    rw [ih, reports, intake_visit]
    split
    · rfl
    · rfl

/-- **Every upload is handed out exactly once.**  In a series of reports, none of which
names an identity twice, each report hands out its uploads that are new, in order; no
identity is handed out twice and none is skipped; and what has been seen is at any time
what was seen from the beginning with all that has been reported.  The page goes through
such a series: in each visit that draws the field for uploads it takes in the report of
that visit, and nothing else on the page touches what has been seen. -/
theorem uploads_handedOutOnce (seen : List String) {reported : List (List Upload)}
    (h : ∀ uploads ∈ reported, (uploadIds uploads).Nodup) :
    HandsOutOnce seen reported ∧
      ∀ session vs, (sessionFrom session vs).seen.getD []
        = seenAfter (session.seen.getD []) (reports session vs) :=
  ⟨handsOutOnce seen h, seen_sessionFrom⟩

/-- Reports of four files, the first of which was seen from the beginning; the second
leaves and comes back, and the last report has a new file of the same name. -/
def comingAndGoing : List (List Upload) :=
  let upload (name id : String) : Upload := { name, id, content := .plain, size := 300 }
  [[upload "old.xlsx" "1", upload "rooms.xlsx" "2"], [], [upload "rooms.xlsx" "2",
    upload "tests.xlsx" "3"], [upload "rooms.xlsx" "4", upload "old.xlsx" "1"]]

/-- Each of the three new identities is handed out by the first report that names it. -/
theorem uploads_handedOutOnce_comingAndGoing :
    (∀ uploads ∈ comingAndGoing, (uploadIds uploads).Nodup) ∧
      HandsOutOnce ["1"] comingAndGoing ∧
      (handedOut ["1"] comingAndGoing).map uploadIds = [["2"], [], ["3"], ["4"]] := by
  have hdistinct : ∀ uploads ∈ comingAndGoing, (uploadIds uploads).Nodup := by decide
  exact ⟨hdistinct, (uploads_handedOutOnce ["1"] hdistinct).1, by decide⟩

end Page

end TableQuery
