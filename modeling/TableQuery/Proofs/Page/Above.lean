/-
TableQuery/Proofs/Page/Above.lean

What stands above the conversation.

The titles, the sidebar and the overview come before the history, and whatever
happens there, the conversation has no part in it: nothing of it is drawn, the
history and the settings of questions stay as they are, and the shelf stays
consistent.  Unlike the survival of the page this needs no condition on the
visit.  A drawing may stop in these parts, for a fresh start or because of an
error, and then the same holds of what it leaves.

So there is one rule for each of these parts, for every condition that takes no
notice of what they do (`Steady`).  The condition for a drawing on its way to the
conversation is one of these (`Above`), and it says what a drawing leaves that
stops on this way (`StopsAbove`).

Every action of these parts on the shelf is a command, and commands keep the
shelf consistent (`keeps_add`, `Shelf.Consistent.perform`).
-/
import TableQuery.Proofs.Page.Survival

namespace TableQuery

open Drawing

/-- Whether an element is a message or the question field. -/
def PageElement.isSpeech : PageElement → Bool
  | .chatMessage _ | .chatInput .. => true
  | _ => false

/-- Whether an element belongs to the conversation, its buttons included. -/
def PageElement.isConversation : PageElement → Bool
  | .button _ => true
  | e => e.isSpeech

/-- Nothing of the conversation is among these elements. -/
def Quiet (elements : List PageElement) : Prop := ∀ e ∈ elements, e.isConversation = false

theorem quiet_nil : Quiet [] := List.forall_mem_nil _

theorem Quiet.append {first second : List PageElement} (h : Quiet first) (h' : Quiet second) :
    Quiet (first ++ second) := by
  intro e he
  rcases List.mem_append.1 he with he | he
  · exact h e he
  · exact h' e he

theorem quiet_singleton {e : PageElement} (h : e.isConversation = false) : Quiet [e] :=
  List.forall_mem_singleton.2 h

namespace Shelf

/-- Whether it succeeds or not, an action leaves a consistent shelf consistent. -/
def Keeps {α : Type} (action : ShelfAction α) : Prop :=
  ∀ s : Shelf, s.Consistent → (runOn action s).2.Consistent

theorem keeps_selectFile (name : String) : Keeps (selectFile name) :=
  fun _ hs => hs.perform (.selectFile name)

theorem keeps_selectSheet (sheet : String) : Keeps (selectSheet sheet) :=
  fun _ hs => hs.perform (.selectSheet sheet)

theorem keeps_remove (name : String) : Keeps (remove name) :=
  fun _ hs => hs.perform (.remove name)

theorem keeps_add (name : String) (content : FileContent) : Keeps (add name content) := by
  intro s hs
  rcases hload : Workbook.load name content with e | w
  · rw [runOn_add_of_error hload]
    exact hs
  · obtain ⟨t, hrun, ht⟩ := hs.runOn_add hload
    rw [hrun]
    exact ht

end Shelf

namespace Page

/-- These are the settings of the page in this environment. -/
def LoadsPage (environment : Environment) (settings : PageSettings) : Prop :=
  ∃ table, (loadInterface Shipped.interface environment).outcome = .ok table ∧
    PageSettings.ofTable? table = some settings

/-! ### What the parts above the conversation keep -/

/-- A condition that takes no notice of what happens above the conversation: of
elements that are no part of it, of warnings, and of changes of the session that
leave the history and the settings of questions alone and a consistent shelf
consistent. -/
structure Steady (I : Canvas → Prop) : Prop where
  draw : ∀ {c : Canvas} {e : PageElement}, e.isConversation = false → I c → I (c.add [e])
  warn : ∀ {c : Canvas} (more : List SettingsWarning),
    I c → I { c with warnings := c.warnings ++ more }
  change : ∀ {c : Canvas} (session : Session), session.history = c.session.history →
    session.settings = c.session.settings → (Settled c.session → Settled session) →
      I c → I { c with session }

namespace Steady

variable {α : Type} {I : Canvas → Prop} {stopped : PageStop → Canvas → Prop}
  {settings : PageSettings} {v : Visit}

/-! ### Steps of a drawing -/

theorem ends_draw (hI : Steady I) {e : PageElement} (he : e.isConversation = false) :
    Ends I (Drawing.draw e) (fun _ => I) stopped :=
  ⟨fun _ hc => hI.draw he hc⟩

theorem ends_throw {stop : PageStop} {after : α → Canvas → Prop} :
    Ends I (throw stop : Drawing α) after (fun _ => I) :=
  Ends.throw fun _ hc => hc

theorem ends_rerun (hI : Steady I) {after : Unit → Canvas → Prop} :
    Ends I rerun after (fun _ => I) :=
  (hI.ends_draw rfl).bind fun _ => ends_throw

theorem ends_session : Ends I session (fun s c => c.session = s ∧ I c) stopped :=
  ⟨fun _ hc => ⟨rfl, hc⟩⟩

theorem ends_shelf : Ends I shelf (fun _ => I) stopped :=
  ⟨fun _ hc => hc⟩

/-- A change of neither the history nor the settings, after which the shelf is
still consistent. -/
theorem ends_change (hI : Steady I) {f : Session → Session}
    (hhistory : ∀ s, (f s).history = s.history) (hsettings : ∀ s, (f s).settings = s.settings)
    (hsettled : ∀ s, Settled s → Settled (f s)) :
    Ends I (Drawing.change f) (fun _ => I) stopped :=
  ⟨fun c hc => hI.change (f c.session) (hhistory _) (hsettings _) (hsettled _) hc⟩

theorem ends_takeLoaded (hI : Steady I) {loaded : Loaded α} :
    Ends I (takeLoaded loaded) (fun a c => loaded.outcome = .ok a ∧ I c) (fun _ => I) := by
  rcases hloaded : loaded.outcome with e | a
  · rw [takeLoaded, hloaded]
    exact ⟨fun _ hc => hI.warn _ hc⟩
  · rw [takeLoaded, hloaded]
    exact ⟨fun _ hc => ⟨rfl, hI.warn _ hc⟩⟩

theorem ends_tryShelf (hI : Steady I) {action : ShelfAction α} (haction : Shelf.Keeps action) :
    Ends I (tryShelf action) (fun _ => I) stopped :=
  ⟨fun _ hc => hI.change _ rfl rfl (haction _) hc⟩

theorem ends_onShelf (hI : Steady I) {action : ShelfAction α} (haction : Shelf.Keeps action) :
    Ends I (onShelf action) (fun _ => I) (fun _ => I) := by
  refine (hI.ends_tryShelf haction).bind fun result => ?_
  rcases result with e | a
  · exact ends_throw
  · exact .pure fun _ hc => hc

theorem ends_onShelf_if (hI : Steady I) {condition : Prop} [Decidable condition]
    {action : ShelfAction Unit} (haction : Shelf.Keeps action) :
    Ends I (if condition then onShelf action else Pure.pure ()) (fun _ => I) (fun _ => I) := by
  split
  · exact hI.ends_onShelf haction
  · exact .pure fun _ hc => hc

/-! ### Parts of the page -/

theorem ends_loadSettings (hI : Steady I) :
    Ends I (loadSettings v) (fun settings c => LoadsPage v.environment settings ∧ I c)
      (fun _ => I) := by
  refine hI.ends_takeLoaded.bind fun table => .assuming fun htable => ?_
  rcases hsettings : PageSettings.ofTable? table with - | settings
  · exact ends_throw
  · exact .pure fun _ hc => ⟨⟨table, htable, hsettings⟩, hc⟩

theorem ends_takeUpload (hI : Steady I) (u : Upload) :
    Ends I (takeUpload settings u) (fun _ => I) (fun _ => I) := by
  rw [takeUpload]
  by_cases hsize : settings.maxUploadMegabytes * 1024 * 1024 < u.size
  · rw [if_pos hsize]
    exact hI.ends_draw rfl
  · rw [if_neg hsize]
    refine (hI.ends_tryShelf (Shelf.keeps_add _ _)).bind fun result => ?_
    -- errors of the file are reported on the page, and all others stop it
    rcases result with e | w
    · cases e with
      | workbook e =>
        show Ends _ (if e.isOfFile then _ else _) _ _
        split
        · exact hI.ends_draw rfl
        · exact ends_throw
      | _ => exact ends_throw
    · exact .pure fun _ hc => hc

theorem ends_drawUploads (hI : Steady I) :
    Ends I (drawUploads settings v) (fun _ => I) (fun _ => I) := by
  refine (hI.ends_draw rfl).bind fun _ => ends_session.bind fun s => ?_
  refine Ends.of_before ?_ fun _ hc => hc.2
  show Ends _ (Drawing.change _ >>= fun _ => List.forM (freshUploads _ v.uploads) _) _ _
  refine Ends.bind (hI.ends_change (fun _ => rfl) (fun _ => rfl) fun _ hs => hs) fun _ => ?_
  exact Ends.forM fun u _ => hI.ends_takeUpload u

theorem ends_choose (hI : Steady I) {label : String} {options : List String}
    {inUse picked : Option String} :
    Ends I (choose label options inUse picked) (fun _ => I) (fun _ => I) := by
  rcases inUse with - | name
  · exact ends_throw
  · rcases hindex : options.idxOf? name with - | index
    · simp only [choose, hindex]
      exact ends_throw
    · simp only [choose, hindex]
      refine (hI.ends_draw rfl).bind fun _ => ?_
      rcases picked with - | pick
      · exact .pure fun _ hc => hc
      · exact .pure fun _ hc => hc

theorem ends_drawFileChoice (hI : Steady I) :
    Ends I (drawFileChoice v) (fun _ => I) (fun _ => I) :=
  ends_shelf.bind fun _ =>
    hI.ends_choose.bind fun name => hI.ends_onShelf_if (Shelf.keeps_selectFile name)

theorem ends_drawSheetChoice (hI : Steady I) :
    Ends I (drawSheetChoice v) (fun _ => I) (fun _ => I) :=
  ends_shelf.bind fun _ =>
    hI.ends_choose.bind fun name => hI.ends_onShelf_if (Shelf.keeps_selectSheet name)

theorem ends_drawRemoval (hI : Steady I) :
    Ends I (drawRemoval v) (fun _ => I) (fun _ => I) := by
  refine (hI.ends_draw rfl).bind fun _ => ?_
  rcases v.removes with - | -
  · exact .pure fun _ hc => hc
  · refine ends_shelf.bind fun s => ?_
    rcases s.selectedFile? with - | name
    · exact ends_throw
    · exact (hI.ends_onShelf (Shelf.keeps_remove name)).bind fun _ => hI.ends_rerun

theorem ends_drawSidebar (hI : Steady I) :
    Ends I (drawSidebar settings v) (fun _ => I) (fun _ => I) := by
  refine (hI.ends_draw rfl).bind fun _ => hI.ends_drawUploads.bind fun _ => ?_
  refine ends_shelf.bind fun s => ?_
  rcases s.fileNames.isEmpty with - | -
  · exact hI.ends_drawFileChoice.bind fun _ =>
      hI.ends_drawSheetChoice.bind fun _ => hI.ends_drawRemoval
  · exact hI.ends_draw rfl

theorem ends_drawOverview (hI : Steady I) : Ends I drawOverview (fun _ => I) stopped := by
  refine ends_shelf.bind fun s => ?_
  rcases s.activeTable? with - | table
  · exact .pure fun _ hc => hc
  · refine (hI.ends_draw rfl).bind fun _ => ?_
    exact ((hI.ends_draw rfl).bind fun _ => hI.ends_draw rfl).bind fun _ => hI.ends_draw rfl

end Steady

/-! ### The conversation from above -/

/-- The history, and something about the settings of questions, while nothing
of the conversation has been drawn. -/
structure Above (h : History) (p : Option QuerySettings → Prop) (c : Canvas) : Prop where
  history : c.session.history = h
  settings : p c.session.settings
  settled : Settled c.session
  quiet : Quiet c.drawn

/-- A drawing stops above the conversation. -/
def StopsAbove (h : History) (_ : PageStop) (c : Canvas) : Prop := Above h (fun _ => True) c

namespace Above

variable {h : History} {p : Option QuerySettings → Prop} {c : Canvas} {v : Visit}

theorem mono {q : Option QuerySettings → Prop} (hc : Above h p c) (hsub : ∀ o, p o → q o) :
    Above h q c :=
  ⟨hc.history, hsub _ hc.settings, hc.settled, hc.quiet⟩

theorem stops (hc : Above h p c) (stop : PageStop) : StopsAbove h stop c :=
  hc.mono fun _ _ => trivial

theorem steady : Steady (Above h p) where
  draw he hc := ⟨hc.history, hc.settings, hc.settled, hc.quiet.append (quiet_singleton he)⟩
  warn _ hc := ⟨hc.history, hc.settings, hc.settled, hc.quiet⟩
  change session hhistory hsettings hsettled hc := by
    refine ⟨hhistory.trans hc.history, ?_, hsettled hc.settled, hc.quiet⟩
    show p session.settings
    rw [hsettings]
    exact hc.settings

/-- The settings of questions are those of the session from here on. -/
theorem ends_questionSettings :
    Ends (Above h p) (questionSettings v) (fun used => Above h (· = some used))
      (StopsAbove h) := by
  refine Steady.ends_session.bind fun s => ?_
  -- the settings are loaded only if no earlier drawing has loaded them
  rcases hs : s.settings with - | used
  · refine Ends.of_before ?_ fun _ hc => hc.2
    refine (steady.ends_takeLoaded.of_stopped fun e _ hc => hc.stops e).bind fun loaded => ?_
    refine .assuming fun _ => ?_
    rcases loaded.settings? with - | used
    · exact Steady.ends_throw.of_stopped fun e _ hc => hc.stops e
    · refine Ends.bind ⟨fun _ hc => ?_⟩ fun _ => .pure fun _ hc => hc
      exact ⟨hc.history, rfl, hc.settled, hc.quiet⟩
  · refine .pure fun c hc => ⟨hc.2.history, ?_, hc.2.settled, hc.2.quiet⟩
    rw [hc.1]
    exact hs

end Above

end Page

end TableQuery
