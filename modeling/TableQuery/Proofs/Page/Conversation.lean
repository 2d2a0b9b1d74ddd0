/-
TableQuery/Proofs/Page/Conversation.lean

What a drawing does to the conversation.

A drawing that gets past the sidebar draws the history, then the question field
and then either the answer to a new question or nothing, and last the controls.
These parts run the same way on every canvas, so their runs are given as
equations.  Below the question field there are three ways to go on (`Converses`),
and the controls have cases of their own (`Controlled`).  Together they say all
that can become of the conversation below the sidebar (`Talked`), and
`ends_drawPage_held` is this for the whole page.  Nothing is assumed of what the
field returns while it is disabled: a question that comes through it is asked
without a table (`Records.of_fileName_eq_null`).

The shelf is not touched below the sidebar.  So the table that a question is
asked about is the one in use when the drawing ends, and by the consistency of
the shelf it is the stored table of the file and the sheet that the exchange
records (`Records`).
-/
import TableQuery.Proofs.Page.Above

namespace TableQuery

open Drawing

/-! ### What a shelf stores -/

/-- The table that a shelf stores under a file and a sheet; without both there
is none. -/
inductive Shelf.StoredAt (s : Shelf) : Option String → Option String → Option Table → Prop
  | nothing : s.StoredAt none none none
  | stored {file sheet : String} {w : Workbook} {table : Table} :
      getNamed? file s.workbooks = some w → w.table sheet = .ok table →
        s.StoredAt (some file) (some sheet) (some table)

/-- The table in use is the stored one. -/
theorem Shelf.Consistent.storedAt {s : Shelf} (hs : s.Consistent) :
    s.StoredAt s.selectedFile? s.selectedSheet? s.activeTable? := by
  rcases hx : s.selection with - | x
  · rw [selectedFile?, selectedSheet?, activeTable?, hx]
    exact .nothing
  · obtain ⟨w, hw, ht⟩ := hs.current hx
    rw [selectedFile?_of_some hx, selectedSheet?_of_some hx, activeTable?_of_some hx]
    exact .stored hw ht

namespace Page

/-! ### Messages and fields -/

/-- The field for questions. -/
def questionField (disabled : Bool) : PageElement :=
  .chatInput "Ask a question about the active sheet" disabled

/-- The button that clears the history. -/
def clearButton : PageElement := .button "Clear chat history"

/-- A message of a role, with what it holds below its text. -/
def messageElements (role text : String) (more : List PageElement) : List PageElement :=
  .chatMessage role :: .markdown text :: (more ++ [.close])

/-- An exchange as two messages. -/
def exchangeElements (more : List PageElement) (e : Exchange) : List PageElement :=
  messageElements "user" e.query.shown [] ++ messageElements "assistant" e.response.shown more

/-- Exchanges as messages, in order. -/
def replay (exchanges : List Exchange) : List PageElement :=
  exchanges.flatMap (exchangeElements [])

/-- No message and no question field is among these elements. -/
def Silent (elements : List PageElement) : Prop :=
  ∀ e ∈ elements, e.isSpeech = false

/-- At most a table. -/
def AtMostTable (elements : List PageElement) : Prop :=
  elements = [] ∨ ∃ frame, elements = [.dataframe frame]

/-! ### Exchanges -/

/-- What the question field returns, normalized. -/
def query (v : Visit) (disabled : Bool) : String := normalizeQuestion (v.returned disabled)

/-- What a visit adds to a session: the normalized question, with the answer that
it has on the table stored under the file and the sheet that are recorded with
it; without a table the question comes through the disabled field. -/
inductive Records (v : Visit) (s : Session) : Exchange → Prop
  | of {settings : PageSettings} {used : QuerySettings} {file sheet : Option String}
      {table : Option Table} {a : Answer} :
      LoadsPage v.environment settings → s.settings = some used →
      (s.shelf.getD {}).StoredAt file sheet table →
      interpret used (some (query v table.isNone)) table = .ok a →
        Records v s (.asked (query v table.isNone) (a.markdown settings.previewRows) v.time
          file sheet)

variable {v : Visit} {settings : PageSettings} {used : QuerySettings}

/-- **The exchange of a question without a table** names no file and no sheet, and
its response is that there is no data. -/
theorem Records.of_fileName_eq_null {s : Session} {e : Exchange} (h : Records v s e)
    (hfile : e.fileName = .null) :
    e = .asked (query v true) "_No data available_" v.time none none := by
  obtain ⟨-, -, hstored, ha⟩ := h
  cases hstored with
  | nothing =>
    rw [interpret] at ha
    split at ha
    · cases ha
    · obtain rfl := Except.ok.inj ha
      rfl
  | stored hw ht => cases hfile

/-! ### The run of the parts -/

theorem runOn_drawMessage (role text : String) (c : Canvas) :
    runOn (drawMessage role text) c = (.ok (), c.add (messageElements role text [])) := by
  show (Except.ok (), ((c.add [_]).add [_]).add [_]) = _
  rw [Canvas.add_add, Canvas.add_add]
  rfl

theorem runOn_drawExchange (e : Exchange) (c : Canvas) :
    runOn (drawExchange e) c = (.ok (), c.add (exchangeElements [] e)) := by
  rw [drawExchange, runOn_bind_ok (runOn_drawMessage _ _ _), runOn_drawMessage, Canvas.add_add]
  rfl

theorem runOn_forM_drawExchange (exchanges : List Exchange) (c : Canvas) :
    runOn (exchanges.forM drawExchange) c = (.ok (), c.add (replay exchanges)) := by
  induction exchanges generalizing c with
  | nil =>
    show (Except.ok (), c) = (Except.ok (), { c with drawn := c.drawn ++ [] })
    rw [List.append_nil]
  | cons e exchanges ih =>
    show runOn (drawExchange e >>= fun _ => exchanges.forM drawExchange) c = _
    rw [runOn_bind_ok (runOn_drawExchange e c), ih, Canvas.add_add]
    rfl

/-- The history is drawn as it is. -/
theorem runOn_drawHistory (c : Canvas) :
    runOn drawHistory c = (.ok (), c.add (replay c.session.history.exchanges)) :=
  runOn_forM_drawExchange _ c

/-- The controls of a history as far as the button that clears it, and what
follows the button. -/
def controls (h : History) (last : PageElement) : List PageElement :=
  [.columns 2, .column 0, .downloadButton "Export chat history" h.download, .close, .column 1,
    clearButton, last]

/-- What becomes of a history by the controls below it. -/
inductive Controlled (v : Visit) (below : List PageElement) (h : History) : History → Prop
  | cleared : v.clears = true → clearButton ∈ below → Controlled v below h {}
  | kept : ¬ (v.clears = true ∧ clearButton ∈ below) → Controlled v below h h

theorem runOn_drawControls_of_isEmpty {c : Canvas} (h : c.session.history.isEmpty = true) :
    runOn (drawControls v) c = (.ok (), c) := by
  show runOn (if (!c.session.history.isEmpty) = true then _ else _) c = _
  rw [h]
  rfl

theorem runOn_drawControls_of_keeps {c : Canvas} (h : c.session.history.isEmpty = false)
    (hclears : v.clears = false) :
    runOn (drawControls v) c = (.ok (), c.add (controls c.session.history .close)) := by
  simp only [drawControls, hclears]
  show runOn (if (!c.session.history.isEmpty) = true then _ else _) c = _
  rw [h]
  show (Except.ok (), ((((((c.add [_]).add [_]).add [_]).add [_]).add [_]).add [_]).add [_]) = _
  simp only [Canvas.add_add]
  rfl

theorem runOn_drawControls_of_clears {c : Canvas} (h : c.session.history.isEmpty = false)
    (hclears : v.clears = true) :
    runOn (drawControls v) c = (.error .rerun, { c with
      session := { c.session with history := {} }
      drawn := c.drawn ++ controls c.session.history .rerun }) := by
  simp only [drawControls, hclears]
  show runOn (if (!c.session.history.isEmpty) = true then _ else _) c = _
  rw [h]
  show (Except.error PageStop.rerun, Canvas.mk { c.session with history := {} }
    (((((((c.add [_]).add [_]).add [_]).add [_]).add [_]).add [_]).drawn ++ [.rerun])
    c.warnings) = _
  simp only [Canvas.add_add]
  rw [Canvas.add, List.append_assoc]
  rfl

theorem silent_controls (h : History) {last : PageElement} (hlast : last = .close ∨ last = .rerun) :
    Silent (controls h last) := by
  rcases hlast with rfl | rfl
  · simp [Silent, controls, clearButton, PageElement.isSpeech]
  · simp [Silent, controls, clearButton, PageElement.isSpeech]

/-- **The controls**: they add no message, and clear the history or keep it. -/
theorem exists_runOn_drawControls (v : Visit) (c : Canvas) :
    ∃ result below history, runOn (drawControls v) c
        = (result, { c with session := { c.session with history }, drawn := c.drawn ++ below }) ∧
      Silent below ∧ Controlled v below c.session.history history := by
  -- no controls without a history, and with one they depend on the button that clears it
  rcases hempty : c.session.history.isEmpty with - | -
  · have hmem {last : PageElement} : clearButton ∈ controls c.session.history last := by
      simp [controls]
    rcases hclears : v.clears with - | -
    · refine ⟨_, _, _, runOn_drawControls_of_keeps hempty hclears, silent_controls _ (.inl rfl),
        .kept fun h => ?_⟩
      rw [hclears] at h
      cases h.1
    · exact ⟨_, _, _, runOn_drawControls_of_clears hempty hclears, silent_controls _ (.inr rfl),
        .cleared hclears hmem⟩
  · refine ⟨.ok (), [], c.session.history, ?_, List.forall_mem_nil _,
      .kept fun h => absurd h.2 List.not_mem_nil⟩
    rw [runOn_drawControls_of_isEmpty hempty, List.append_nil]

/-- What is drawn below an answer: all of its rows, if there are more than are
previewed. -/
def rowsBelow (settings : PageSettings) (a : Answer) : List PageElement :=
  if settings.previewRows < a.rowCount then [.dataframe (a.frame none)] else []

theorem atMostTable_rowsBelow (settings : PageSettings) (a : Answer) :
    AtMostTable (rowsBelow settings a) := by
  rw [rowsBelow]
  split
  · exact .inr ⟨_, rfl⟩
  · exact .inl rfl

/-- **An answer** is kept and drawn. -/
theorem runOn_answer {query : String} {c : Canvas} {inquiry : Inquiry}
    (h : (c.session.shelf.getD {}).ask used query settings.previewRows v.time = .ok inquiry) :
    runOn (answer settings used v query) c = (.ok (), { c with
      session := { c.session with
        history := c.session.history.add inquiry.exchange
        answered := c.session.answered + 1 }
      drawn := c.drawn ++ (messageElements "user" query [] ++
        messageElements "assistant" inquiry.exchange.response.shown
          (rowsBelow settings inquiry.answer)) }) := by
  -- the table below the message is drawn only if not all rows are in it
  have hrows (c : Canvas) : runOn (if settings.previewRows < inquiry.answer.rowCount then
      draw (.dataframe (inquiry.answer.frame none)) else pure ()) c =
        (.ok (), c.add (rowsBelow settings inquiry.answer)) := by
    rw [rowsBelow]
    split
    · rfl
    · rw [Canvas.add, List.append_nil]
      rfl
  rw [answer, runOn_bind_ok (runOn_shelf_getD c)]
  simp only [h]
  rw [runOn_bind_ok (runOn_change _ c), runOn_bind_ok (runOn_drawMessage _ _ _),
    runOn_block ((runOn_bind_ok (runOn_draw _ _) _).trans (hrows _))]
  simp only [Canvas.add_add]
  rfl

/-- What became of the conversation after the parts above it: nothing was
answered, or one exchange was added and drawn. -/
inductive Talked (v : Visit) (h : History) (above : List PageElement) (after : Session)
    (drawn : List PageElement) : Prop
  | passed {disabled : Bool} {below : List PageElement} : query v disabled = "" →
      drawn = above ++ replay h.exchanges ++ questionField disabled :: below → Silent below →
      Controlled v below h after.history → Talked v h above after drawn
  | answered {disabled : Bool} {e : Exchange} {more below : List PageElement} :
      query v disabled ≠ "" → Records v after e → AtMostTable more →
      drawn = above ++ replay h.exchanges ++
        questionField disabled :: (exchangeElements more e ++ below) → Silent below →
      Controlled v below (h.add e) after.history → Talked v h above after drawn

theorem query_of_asked?_eq_none {disabled : Bool} (h : asked? v disabled = none) :
    query v disabled = "" := by
  rw [query]
  rcases hreturned : v.returned disabled with - | text
  · rfl
  · rw [asked?, hreturned, Option.filter_eq_none_iff] at h
    have hempty : text = "" := by simpa using h text rfl
    rw [hempty]
    rfl

theorem query_of_asked?_eq_some {disabled : Bool} {text : String}
    (h : asked? v disabled = some text) : query v disabled = normalizeQuestion (some text) := by
  rw [query, (Option.filter_eq_some_iff.1 h).1]

theorem exists_of_ask_eq_ok {s : Shelf} {query : String} {maxRows : Int} {time : Moment}
    {inquiry : Inquiry} (h : s.ask used query maxRows time = .ok inquiry) :
    ∃ a, interpret used (some query) s.activeTable? = .ok a ∧ inquiry = ⟨a,
      .asked query (a.markdown maxRows) time s.selectedFile? s.selectedSheet?⟩ := by
  rcases ha : interpret used (some query) s.activeTable? with e | a
  · rw [Shelf.ask, ha] at h
    cases h
  · rw [Shelf.ask, ha] at h
    exact ⟨a, rfl, (Except.ok.inj h).symm⟩

/-- Whether the question field is disabled: there is no table in use. -/
def disabled (s : Session) : Bool := (s.shelf.getD {}).activeTable?.isNone

/-- A canvas with one more exchange, kept and drawn. -/
def withExchange (c : Canvas) (e : Exchange) (more : List PageElement) : Canvas :=
  { c with
    session := { c.session with
      history := c.session.history.add e
      answered := c.session.answered + 1 }
    drawn := c.drawn ++ exchangeElements more e }

/-- How the drawing goes on from the question field: to the controls, if nothing is
asked; nowhere, after a question without a word; and to the controls behind the
answer, after any other question. -/
inductive Converses (settings : PageSettings) (used : QuerySettings) (v : Visit) (c : Canvas) :
    Except PageStop Unit × Canvas → Prop
  | unasked : asked? v (disabled c.session) = none →
      Converses settings used v c
        (runOn (drawControls v) (c.add [questionField (disabled c.session)]))
  | passedOver {text : String} : asked? v (disabled c.session) = some text →
      normalizeQuestion (some text) = "" →
      Converses settings used v c (.ok (), c.add [questionField (disabled c.session)])
  | answered {text : String} {a : Answer} {e : Exchange} :
      asked? v (disabled c.session) = some text → normalizeQuestion (some text) ≠ "" →
      interpret used (some (normalizeQuestion (some text)))
        (c.session.shelf.getD {}).activeTable? = .ok a →
      e = .asked (normalizeQuestion (some text)) (a.markdown settings.previewRows) v.time
        (c.session.shelf.getD {}).selectedFile? (c.session.shelf.getD {}).selectedSheet? →
      Converses settings used v c (runOn (drawControls v)
        (withExchange (c.add [questionField (disabled c.session)]) e (rowsBelow settings a)))

/-- **The run of the question field** and what is below it. -/
theorem converses_drawConversation (settings : PageSettings) (used : QuerySettings) (v : Visit)
    (c : Canvas) :
    Converses settings used v c (runOn (drawConversation settings used v) c) := by
  rw [drawConversation, runOn_bind_ok (runOn_shelf_getD c), runOn_bind_ok (runOn_draw _ c)]
  show Converses settings used v c (runOn _ (c.add [questionField (disabled c.session)]))
  rw [show (c.session.shelf.getD {}).activeTable?.isNone = disabled c.session from rfl]
  -- the question is the first thing that is asked for, and the only one that matters here
  rcases hasked : asked? v (disabled c.session) with - | text
  · exact .unasked hasked
  · dsimp only
    by_cases hquery : normalizeQuestion (some text) = ""
    · rw [if_neg (not_not.2 hquery)]
      exact .passedOver hasked hquery
    · -- a question with a word always has an answer, also without a table
      obtain ⟨inquiry, hinquiry⟩ := (c.session.shelf.getD {}).exists_ask_eq_ok
        (hasWord_normalizeQuestion hquery) used settings.previewRows v.time
      obtain ⟨a, ha, rfl⟩ := exists_of_ask_eq_ok hinquiry
      have hanswer := runOn_answer (c := c.add [questionField (disabled c.session)]) hinquiry
      rw [if_pos hquery, runOn_bind_ok hanswer]
      exact .answered hasked hquery ha rfl

/-- A drawing that came to its question field, with nothing of the conversation
above the history. -/
def Held (v : Visit) (h : History) (c : Canvas) : Prop :=
  Settled c.session ∧ ∃ above, Quiet above ∧ Talked v h above c.session c.drawn

/-- **The question field and what is below it.** -/
theorem held_drawConversation {above : List PageElement} {c : Canvas} (habove : Quiet above)
    (hpage : LoadsPage v.environment settings) (hused : c.session.settings = some used)
    (hsettled : Settled c.session)
    (hdrawn : c.drawn = above ++ replay c.session.history.exchanges) :
    Held v c.session.history (runOn (drawConversation settings used v) c).2 := by
  have hconverses := converses_drawConversation settings used v c
  generalize runOn (drawConversation settings used v) c = run at hconverses ⊢
  cases hconverses with
  | unasked hasked =>
    obtain ⟨result, below, history, hrun, hsilent, hcontrolled⟩ := exists_runOn_drawControls v
      (c.add [questionField (disabled c.session)])
    rw [hrun]
    refine ⟨hsettled, above, habove, .passed (query_of_asked?_eq_none hasked) ?_ hsilent
      hcontrolled⟩
    dsimp only [Canvas.add]
    rw [hdrawn, List.append_assoc, List.singleton_append]
  | passedOver hasked hquery =>
    rw [← query_of_asked?_eq_some hasked] at hquery
    -- a question without a word ends the page, so the history is kept and no control is drawn
    refine ⟨hsettled, above, habove, .passed hquery ?_ (List.forall_mem_nil _)
      (.kept fun h => absurd h.2 List.not_mem_nil)⟩
    dsimp only [Canvas.add]
    rw [hdrawn]
  | @answered text a e hasked hquery ha he =>
    -- the exchange is recorded and drawn, and the controls see the history with it
    subst he
    rw [← query_of_asked?_eq_some hasked] at hquery ha ⊢
    obtain ⟨result, below, history, hrun, hsilent, hcontrolled⟩ := exists_runOn_drawControls v _
    rw [hrun]
    refine ⟨hsettled, above, habove, .answered hquery (.of hpage hused hsettled.storedAt ha)
      (atMostTable_rowsBelow settings a) ?_ hsilent hcontrolled⟩
    dsimp only [Canvas.add, withExchange]
    rw [hdrawn]
    simp only [List.append_assoc, List.cons_append]
    rfl

theorem ends_history_conversation {h : History} {stopped : PageStop → Canvas → Prop}
    (hpage : LoadsPage v.environment settings) (hstopped : ∀ e c, Held v h c → stopped e c) :
    Ends (Above h (· = some used)) (drawHistory >>= fun _ => drawConversation settings used v)
      (fun _ => Held v h) stopped := by
  refine ⟨fun c hc => ?_⟩
  have hheld := held_drawConversation (c := c.add (replay c.session.history.exchanges)) hc.quiet
    hpage hc.settings hc.settled rfl
  rw [runOn_bind_ok (runOn_drawHistory c)]
  rw [show (c.add _).session.history = h from hc.history] at hheld
  rcases hrun : runOn (drawConversation settings used v) _ with ⟨e | a, after⟩
  · rw [hrun] at hheld
    exact hstopped e after hheld
  · rw [hrun] at hheld
    exact hheld

/-- **A drawing**: it stops above the conversation, or comes to the question
field. -/
theorem ends_drawPage_held {h : History} :
    Ends (Above h fun _ => True) (drawPage v) (fun _ => Held v h)
      (fun stop c => StopsAbove h stop c ∨ Held v h c) := by
  have hsteady {p : Option QuerySettings → Prop} : Steady (Above h p) := Above.steady
  have hstop {p : Option QuerySettings → Prop} (stop : PageStop) (c : Canvas)
      (hc : Above h p c) : StopsAbove h stop c ∨ Held v h c := .inl (hc.stops stop)
  refine (hsteady.ends_loadSettings.of_stopped hstop).bind fun settings => ?_
  refine .assuming fun hpage => ?_
  refine (hsteady.ends_draw rfl).bind fun _ => (hsteady.ends_draw rfl).bind fun _ => ?_
  refine Ends.bind (hsteady.ends_change (fun _ => rfl) (fun _ => rfl) fun _ hs => hs) fun _ => ?_
  refine (Above.ends_questionSettings.of_stopped hstop).bind fun used => ?_
  refine (hsteady.ends_drawSidebar.of_stopped hstop).bind fun _ => ?_
  exact hsteady.ends_drawOverview.bind fun _ => ends_history_conversation hpage fun _ _ => .inr

end Page

end TableQuery
