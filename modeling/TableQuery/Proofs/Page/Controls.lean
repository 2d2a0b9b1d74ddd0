/-
TableQuery/Proofs/Page/Controls.lean

The controls of the history.

A drawing that comes to its end and leaves exchanges in the history ends with
the controls of that history: the export holds all its exchanges, with the one
that was added below the question field, because the controls are drawn after
the answer.  There is one exception.  A question of white space only is passed
over, and the drawing ends right there, before the controls.

What a drawing does before it comes to the history leaves the history alone,
whatever the session is (`steady_remembers`).  So all this holds of every session,
also of one that no visits lead to.

Main result: `controls_offered`.
-/
import TableQuery.Proofs.Page.Replay

namespace TableQuery

open Drawing

/-- Whether an element is one of the buttons below the history. -/
def PageElement.isHistoryButton : PageElement → Bool
  | .downloadButton .. | .button _ => true
  | _ => false

namespace Page

variable {v : Visit} {settings : PageSettings} {used : QuerySettings}

/-- The controls of a history, if it holds anything. -/
def controlsBelow (h : History) : List PageElement := if h.isEmpty then [] else controls h .close

/-- Controls that do not stop the drawing leave the history as it is. -/
theorem eq_of_runOn_drawControls {c after : Canvas}
    (h : runOn (drawControls v) c = (.ok (), after)) :
    after = c.add (controlsBelow c.session.history) := by
  rw [controlsBelow]
  rcases hempty : c.session.history.isEmpty with - | -
  · rcases hclears : v.clears with - | -
    · rw [runOn_drawControls_of_keeps hempty hclears] at h
      exact (Prod.mk.inj h).2.symm
    · rw [runOn_drawControls_of_clears hempty hclears] at h
      cases (Prod.mk.inj h).1
  · rw [runOn_drawControls_of_isEmpty hempty] at h
    rw [if_pos rfl, Canvas.add, List.append_nil]
    exact (Prod.mk.inj h).2.symm

/-- How a drawing with a history comes to its end, by what was asked: it goes on to
the controls, except after a question of white space only. -/
inductive Closes (v : Visit) (h : History) (after : Session) (drawn : List PageElement) : Prop
  | unasked {above : List PageElement} :
      asked? v (disabled after) = none → after.history = h →
      drawn = above ++ replay h.exchanges ++ questionField (disabled after) :: controlsBelow h →
        Closes v h after drawn
  | passedOver {above : List PageElement} {text : String} :
      asked? v (disabled after) = some text → normalizeQuestion (some text) = "" →
      after.history = h →
      drawn = above ++ replay h.exchanges ++ [questionField (disabled after)] →
        Closes v h after drawn
  | answered {above more : List PageElement} {text : String} {e : Exchange} :
      asked? v (disabled after) = some text → normalizeQuestion (some text) ≠ "" →
      e.query = .text (normalizeQuestion (some text)) → after.history = h.add e →
      drawn = above ++ replay h.exchanges ++
        questionField (disabled after) :: (exchangeElements more e ++ controlsBelow (h.add e)) →
        Closes v h after drawn

/-- **The question field and what is below it**, up to the end of the drawing. -/
theorem closes_drawConversation {above : List PageElement} {c after : Canvas}
    (hdrawn : c.drawn = above ++ replay c.session.history.exchanges)
    (h : runOn (drawConversation settings used v) c = (.ok (), after)) :
    Closes v c.session.history after.session after.drawn := by
  have hconverses := converses_drawConversation settings used v c
  rw [h] at hconverses
  -- the page is left to the end, so only the shapes with the controls, and the early end, remain
  generalize hrun : (Except.ok (), after) = run at hconverses
  cases hconverses with
  | unasked hasked =>
    obtain rfl := eq_of_runOn_drawControls hrun.symm
    refine .unasked hasked rfl (?_ : _ = above ++ replay c.session.history.exchanges ++
      questionField (disabled c.session) :: controlsBelow c.session.history)
    simp only [Canvas.add, hdrawn, List.append_assoc, List.singleton_append]
  | passedOver hasked hquery =>
    obtain rfl := (Prod.mk.inj hrun).2
    exact .passedOver hasked hquery rfl
      (congrArg (· ++ [questionField (disabled c.session)]) hdrawn)
  | @answered text a e hasked hquery ha he =>
    obtain rfl := eq_of_runOn_drawControls hrun.symm
    refine .answered hasked hquery (congrArg Exchange.query he) rfl (?_ : _ = above ++
      replay c.session.history.exchanges ++ questionField (disabled c.session) ::
        (exchangeElements (rowsBelow settings a) e ++
          controlsBelow (c.session.history.add e)))
    simp only [Canvas.add, withExchange, hdrawn, List.append_assoc, List.cons_append,
      List.nil_append]

/-- The history of a canvas. -/
def Remembers (h : History) (c : Canvas) : Prop := c.session.history = h

theorem steady_remembers (h : History) : Steady (Remembers h) where
  draw _ hc := hc
  warn _ hc := hc
  change _ hhistory _ _ hc := hhistory.trans hc

theorem ends_questionSettings_remembers {h : History} :
    Ends (Remembers h) (questionSettings v) (fun _ => Remembers h) (fun _ => Remembers h) := by
  refine Steady.ends_session.bind fun s => ?_
  refine Ends.of_before ?_ fun _ hc => hc.2
  rcases s.settings with - | used
  · refine (steady_remembers h).ends_takeLoaded.bind fun loaded => .assuming fun _ => ?_
    rcases loaded.settings? with - | used
    · exact Steady.ends_throw
    · have hchange : Ends (Remembers h) (change fun s => { s with settings := some used })
          (fun _ => Remembers h) (fun _ => Remembers h) := ⟨fun _ hc => hc⟩
      exact hchange.bind fun _ => .pure fun _ hc => hc
  · exact .pure fun _ hc => hc

/-- **A drawing that comes to its end**, whatever the session was. -/
theorem ends_drawPage_closes {h : History} :
    Ends (Remembers h) (drawPage v) (fun _ c => Closes v h c.session c.drawn)
      (fun _ _ => True) := by
  -- nothing above the conversation touches the history, so the page is followed down to it
  have hsteady := steady_remembers h
  have hstop (stop : PageStop) (c : Canvas) (_ : Remembers h c) : True := trivial
  refine (hsteady.ends_loadSettings.of_stopped hstop).bind fun settings => .assuming fun _ => ?_
  refine (hsteady.ends_draw rfl).bind fun _ => (hsteady.ends_draw rfl).bind fun _ => ?_
  refine Ends.bind (hsteady.ends_change (fun _ => rfl) (fun _ => rfl) fun _ hs => hs) fun _ => ?_
  refine (ends_questionSettings_remembers.of_stopped hstop).bind fun used => ?_
  refine (hsteady.ends_drawSidebar.of_stopped hstop).bind fun _ => ?_
  refine hsteady.ends_drawOverview.bind fun _ => ⟨fun c hc => ?_⟩
  rw [runOn_bind_ok (runOn_drawHistory c)]
  rcases hrun : runOn (drawConversation settings used v) _ with ⟨e | a, after⟩
  · exact trivial
  · have hcloses := closes_drawConversation (c := c.add (replay c.session.history.exchanges))
      rfl hrun
    rw [show (c.add _).session.history = h from hc] at hcloses
    exact hcloses

/-! ### One visit -/

namespace Outcome

/-- The last thing drawn are the controls of the history as it is afterwards. -/
def OffersControls (o : Outcome) : Prop :=
  ∃ above, o.drawn = above ++ controls o.session.history .close

/-- This was asked, whether there is a table in use or not, its words divided by
single spaces. -/
def Asked (o : Outcome) (v : Visit) (query : String) : Prop :=
  ∃ text, asked? v (disabled o.session) = some text ∧ normalizeQuestion (some text) = query

end Outcome

theorem closes_visit {session : Session} (hstop : (visit session v).stop = none) :
    Closes v session.history (visit session v).session (visit session v).drawn := by
  have hend := (ends_drawPage_closes (v := v) (h := session.history)).run { session } rfl
  rw [visit_eq] at hstop ⊢
  rcases hrun : runOn (drawPage v) { session } with ⟨stop | _, c⟩
  · rw [hrun] at hstop
    cases hstop
  · rw [hrun] at hend
    exact hend

section Closes

variable {h : History} {o : Outcome}

/-- A history that holds anything is followed by its controls. -/
theorem offersControls_of_drawn {above : List PageElement}
    (hhistory : o.session.history.isEmpty = false)
    (hdrawn : o.drawn = above ++ controlsBelow o.session.history) : o.OffersControls := by
  rw [controlsBelow, if_neg (Bool.eq_false_iff.1 hhistory)] at hdrawn
  exact ⟨above, hdrawn⟩

/-- Nothing is offered behind a question field at the end. -/
theorem not_offersControls_of_drawn {above : List PageElement} {d : Bool}
    (hdrawn : o.drawn = above ++ [questionField d]) : ¬ o.OffersControls := by
  rintro ⟨front, hfront⟩
  have hlast := congrArg List.getLast? (hdrawn.symm.trans hfront)
  rw [List.getLast?_append, List.getLast?_append] at hlast
  cases hlast

/-- **The controls are offered exactly if no blank question was passed over.** -/
theorem Closes.offersControls_iff (hcloses : Closes v h o.session o.drawn)
    (hhistory : o.session.history.isEmpty = false) :
    o.OffersControls ↔ ¬ o.Asked v "" := by
  -- the controls are missing in one of the three shapes only: after a question without a word
  cases hcloses with
  | @unasked above hasked hkept hdrawn =>
    refine iff_of_true (offersControls_of_drawn hhistory (?_ : _ = (above ++
      replay h.exchanges ++ [questionField (disabled o.session)]) ++ _)) ?_
    · rw [hdrawn, hkept]
      simp only [List.append_assoc, List.singleton_append]
    · rintro ⟨text, htext, -⟩
      rw [hasked] at htext
      cases htext
  | passedOver hasked hblank hkept hdrawn =>
    exact iff_of_false (not_offersControls_of_drawn hdrawn) (not_not.2 ⟨_, hasked, hblank⟩)
  | @answered above more text e hasked hword hquery hadded hdrawn =>
    refine iff_of_true (offersControls_of_drawn hhistory (?_ : _ = (above ++
      replay h.exchanges ++ questionField (disabled o.session) :: exchangeElements more e) ++ _)) ?_
    · rw [hdrawn, hadded]
      simp only [List.append_assoc, List.cons_append]
    · rintro ⟨text', htext', hblank⟩
      rw [hasked] at htext'
      obtain rfl := Option.some.inj htext'
      exact hword hblank

/-- What was asked is in the history when the controls are drawn. -/
theorem Closes.exists_added (hcloses : Closes v h o.session o.drawn) {query : String}
    (hquery : query ≠ "") (hasked : o.Asked v query) :
    ∃ e : Exchange, e.query = .text query ∧ o.session.history = h.add e := by
  obtain ⟨text, htext, rfl⟩ := hasked
  -- a question was asked and has a word, which leaves the shape with an answer
  cases hcloses with
  | unasked hnone hkept hdrawn =>
    rw [hnone] at htext
    cases htext
  | passedOver hsome hblank hkept hdrawn =>
    rw [hsome] at htext
    obtain rfl := Option.some.inj htext
    exact absurd hblank hquery
  | @answered above more text' e hsome hword htext' hadded hdrawn =>
    rw [hsome] at htext
    obtain rfl := Option.some.inj htext
    exact ⟨e, htext', hadded⟩

end Closes

/-- **The controls of the history are offered**, in every session and by every
drawing that comes to its end and leaves a history: exactly if no question of
white space only was passed over.  They offer the whole history as it is then,
and any other question that was asked is in it as an exchange that was added to
the history of the session. -/
theorem controls_offered (session : Session) (v : Visit) (hstop : (visit session v).stop = none)
    (hhistory : (visit session v).session.history.isEmpty = false) :
    ((visit session v).OffersControls ↔ ¬ (visit session v).Asked v "") ∧
      ∀ query, query ≠ "" → (visit session v).Asked v query →
        ∃ e : Exchange, e.query = .text query ∧
          (visit session v).session.history = session.history.add e := by
  have hcloses := closes_visit hstop
  exact ⟨hcloses.offersControls_iff hhistory,
    fun query hquery hasked => hcloses.exists_added hquery hasked⟩

/-- The first question of a session is in the history that is offered. -/
theorem controls_offered_asking :
    (visit {} asking).stop = none ∧ (visit {} asking).session.history.isEmpty = false ∧
      (visit {} asking).OffersControls ∧
      ∃ e : Exchange, e.query = .text "b2" ∧
        (visit {} asking).session.history = History.add {} e := by
  have hstop : (visit {} asking).stop = none :=
    Option.isNone_iff_eq_none.1 (by decide +kernel)
  have hhistory : (visit {} asking).session.history.isEmpty = false := by decide +kernel
  have hasked : asked? asking (disabled (visit {} asking).session) = some "b2" := by
    decide +kernel
  obtain ⟨hoffers, hadded⟩ := controls_offered {} asking hstop hhistory
  have hword : ¬ (visit {} asking).Asked asking "" := by
    rintro ⟨text, htext, hblank⟩
    rw [hasked] at htext
    obtain rfl := Option.some.inj htext
    exact absurd hblank (by decide)
  exact ⟨hstop, hhistory, hoffers.2 hword, hadded "b2" (by decide) ⟨"b2", hasked, by decide⟩⟩

/-- A visit whose question holds white space only. -/
def wordless : Visit := { asking with question := some "   " }

/-- The visit comes to its end and the history holds an exchange, but neither of
its buttons is drawn. -/
theorem controls_missing :
    (visit (sessionAfter [asking]) wordless).stop = none ∧
      (visit (sessionAfter [asking]) wordless).session.history.exchanges.length = 1 ∧
      ∀ e ∈ (visit (sessionAfter [asking]) wordless).drawn, e.isHistoryButton = false :=
  ⟨Option.isNone_iff_eq_none.1 (by decide +kernel), by decide +kernel, by decide +kernel⟩

end Page

end TableQuery
