/-
TableQuery/Proofs/Page/Drawing.lean

How the parts of a drawing end, as far as the session is concerned.

A condition on the session (`OnSession`) takes no notice of what is drawn, so
drawing keeps every such condition, whatever the element.  Of the session only
the shelf can fail a page, and `OnShelf` is a condition on the shelf that the
page has made.  Changes of anything else keep it.

An action on the shelf is followed through its run on the shelf alone
(`runOn`): what is known of that run is what is known of the drawing.
-/
import TableQuery.Page
import TableQuery.Proofs.Action.Ending

namespace TableQuery

/-- More elements on a canvas. -/
def Canvas.add (c : Canvas) (elements : List PageElement) : Canvas :=
  { c with drawn := c.drawn ++ elements }

theorem Canvas.add_add (c : Canvas) (first second : List PageElement) :
    (c.add first).add second = c.add (first ++ second) := by
  rw [Canvas.add, Canvas.add, Canvas.add, List.append_assoc]

namespace Drawing

/-! ### Runs -/

theorem runOn_draw (e : PageElement) (c : Canvas) : runOn (draw e) c = (.ok (), c.add [e]) := rfl

theorem runOn_change (f : Session → Session) (c : Canvas) :
    runOn (change f) c = (.ok (), { c with session := f c.session }) := rfl

theorem runOn_shelf_getD (c : Canvas) :
    runOn shelf c = (.ok (c.session.shelf.getD {}), c) := rfl

theorem runOn_block {opening : PageElement} {content : Drawing Unit} {c after : Canvas}
    (h : runOn content (c.add [opening]) = (.ok (), after)) :
    runOn (block opening content) c = (.ok (), after.add [.close]) := by
  rw [block, runOn_bind_ok (runOn_draw opening c), runOn_bind_ok h]
  rfl

/-! ### Conditions -/

variable {α : Type} {P Q : Shelf → Prop} {stopped : PageStop → Canvas → Prop}

/-- A condition on the session of a canvas. -/
def OnSession (p : Session → Prop) (c : Canvas) : Prop := p c.session

/-- A condition on the shelf of a canvas, which must be there. -/
def OnShelf (P : Shelf → Prop) : Canvas → Prop :=
  OnSession fun session => ∃ s, session.shelf = some s ∧ P s

theorem OnShelf.mono (hsub : ∀ s, P s → Q s) {c : Canvas} (h : OnShelf P c) : OnShelf Q c := by
  obtain ⟨s, hshelf, hs⟩ := h
  exact ⟨s, hshelf, hsub s hs⟩

theorem OnShelf.of_eq {s : Shelf} (hs : Q s) {c : Canvas} (h : OnShelf (· = s) c) :
    OnShelf Q c := by
  refine h.mono ?_
  rintro _ rfl
  exact hs

/-! ### Elements -/

section Elements

variable {p : Session → Prop}

theorem ends_draw (e : PageElement) :
    Ends (OnSession p) (draw e) (fun _ => OnSession p) stopped :=
  ⟨fun _ hc => hc⟩

theorem ends_block (opening : PageElement) {content : Drawing Unit}
    (h : Ends (OnSession p) content (fun _ => OnSession p) stopped) :
    Ends (OnSession p) (block opening content) (fun _ => OnSession p) stopped :=
  (ends_draw opening).bind fun _ => h.bind fun _ => ends_draw .close

/-- A fresh start leaves the session as it is. -/
theorem ends_rerun {after : Unit → Canvas → Prop} :
    Ends (OnSession p) rerun after (fun stop c => stop = .rerun ∧ OnSession p c) :=
  (ends_draw .rerun).bind fun _ => Ends.throw fun _ hc => ⟨rfl, hc⟩

theorem ends_session : Ends (OnSession p) session (fun _ => OnSession p) stopped :=
  ⟨fun _ hc => hc⟩

theorem ends_takeLoaded {loaded : Loaded α} {a : α} (h : loaded.outcome = .ok a) :
    Ends (OnSession p) (takeLoaded loaded) (fun b c => b = a ∧ OnSession p c) stopped := by
  rw [takeLoaded, h]
  exact ⟨fun _ hc => ⟨rfl, hc⟩⟩

end Elements

/-! ### The shelf -/

/-- A change of anything but the shelf. -/
theorem ends_change {f : Session → Session} (h : ∀ session, (f session).shelf = session.shelf) :
    Ends (OnShelf P) (change f) (fun _ => OnShelf P) stopped := by
  refine ⟨?_⟩
  rintro c ⟨s, hshelf, hs⟩
  exact ⟨s, (h c.session).trans hshelf, hs⟩

theorem runOn_shelf {c : Canvas} {s : Shelf} (h : c.session.shelf = some s) :
    runOn shelf c = (.ok s, c) := by
  show (Except.ok (c.session.shelf.getD {}), c) = _
  rw [h, Option.getD_some]

/-- After a look at the shelf the rest of the drawing knows the shelf it is on. -/
theorem ends_shelf_known :
    Ends (OnShelf P) shelf (fun s c => P s ∧ OnShelf (· = s) c) stopped := by
  refine .of_runOn ?_
  rintro c ⟨s, hshelf, hs⟩
  exact ⟨s, c, runOn_shelf hshelf, hs, s, hshelf, rfl⟩

/-- A look at the shelf changes nothing. -/
theorem ends_shelf : Ends (OnShelf P) shelf (fun _ => OnShelf P) stopped :=
  ends_shelf_known.of_after fun _ _ h => OnShelf.of_eq h.1 h.2

theorem runOn_tryShelf {action : ShelfAction α} {c : Canvas} {s t : Shelf}
    {result : Except ShelfError α} (hshelf : c.session.shelf = some s)
    (haction : runOn action s = (result, t)) :
    runOn (tryShelf action) c
      = (.ok result, { c with session := { c.session with shelf := some t } }) := by
  rw [tryShelf, runOn_bind_ok (runOn_shelf hshelf)]
  show runOn (change (fun session => { session with shelf := some (runOn action s).2 })
    >>= fun _ => Pure.pure (runOn action s).1) c = _
  rw [haction]
  rfl

/-- An action on the shelf whose result is known. -/
theorem ends_tryShelf {action : ShelfAction α} {result : Except ShelfError α}
    (h : ∀ s, P s → ∃ t, runOn action s = (result, t) ∧ Q t) :
    Ends (OnShelf P) (tryShelf action) (fun r c => r = result ∧ OnShelf Q c) stopped := by
  refine .of_runOn ?_
  rintro c ⟨s, hshelf, hs⟩
  obtain ⟨t, haction, ht⟩ := h s hs
  exact ⟨result, _, runOn_tryShelf hshelf haction, rfl, t, rfl, ht⟩

/-- An action on the shelf that succeeds. -/
theorem ends_onShelf {action : ShelfAction α} {a : α}
    (h : ∀ s, P s → ∃ t, runOn action s = (.ok a, t) ∧ Q t) :
    Ends (OnShelf P) (onShelf action) (fun _ => OnShelf Q) stopped :=
  (ends_tryShelf h).bind_known (.pure fun _ hc => hc)

/-- An action on a known shelf that is done only in some cases. -/
theorem ends_onShelf_if {condition : Prop} [Decidable condition] {action : ShelfAction Unit}
    {s : Shelf} (hstays : Q s) (hdone : ∃ t, runOn action s = (.ok (), t) ∧ Q t) :
    Ends (OnShelf (· = s)) (if condition then onShelf action else Pure.pure ())
      (fun _ => OnShelf Q) stopped := by
  by_cases h : condition
  · rw [if_pos h]
    refine ends_onShelf (a := ()) ?_
    rintro _ rfl
    exact hdone
  · rw [if_neg h]
    exact .pure fun _ hc => OnShelf.of_eq hstays hc

end Drawing

end TableQuery
