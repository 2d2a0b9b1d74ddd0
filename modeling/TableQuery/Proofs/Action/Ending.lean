/-
TableQuery/Proofs/Action/Ending.lean

How a program ends.

A program that changes a state and can fail either comes to its end with a
result or stops with an error.  `Ends before program after stopped` gives a
condition for each: from every state in `before` the program comes to its end
in `after`, or stops in `stopped`.  There is no third way, so an error that
`stopped` does not allow is an error that does not happen.

The rules follow the way a program is put together, one for each part, and
`stopped` stays the same through all of them.  Where a program reads its
state, what it has read is known to the rest of it: `assuming` takes such a
fact out of the condition on the state, and `bind_known` is for a first part
whose result is known.
-/
import TableQuery.Proofs.Action

namespace TableQuery

variable {ε σ α β : Type}

/-- From every state in `before`, a program comes to its end in `after` or
stops in `stopped`. -/
structure Ends (before : σ → Prop) (program : ExceptT ε (StateM σ) α) (after : α → σ → Prop)
    (stopped : ε → σ → Prop) : Prop where
  run : ∀ s, before s →
    match runOn program s with
    | (.ok a, t) => after a t
    | (.error e, t) => stopped e t

namespace Ends

variable {before middle : σ → Prop} {after : α → σ → Prop} {stopped : ε → σ → Prop}
  {program : ExceptT ε (StateM σ) α}

/-! ### Weaker conditions -/

theorem of_before {earlier : σ → Prop} (h : Ends before program after stopped)
    (hbefore : ∀ s, earlier s → before s) : Ends earlier program after stopped :=
  ⟨fun s hs => h.run s (hbefore s hs)⟩

theorem of_after {later : α → σ → Prop} (h : Ends before program after stopped)
    (hafter : ∀ a s, after a s → later a s) : Ends before program later stopped := by
  refine ⟨fun s hs => ?_⟩
  have hend := h.run s hs
  rcases hrun : runOn program s with ⟨e | a, t⟩
  · rw [hrun] at hend
    exact hend
  · rw [hrun] at hend
    exact hafter a t hend

theorem of_stopped {elsewhere : ε → σ → Prop} (h : Ends before program after stopped)
    (hstopped : ∀ e s, stopped e s → elsewhere e s) : Ends before program after elsewhere := by
  refine ⟨fun s hs => ?_⟩
  have hend := h.run s hs
  rcases hrun : runOn program s with ⟨e | a, t⟩
  · rw [hrun] at hend
    exact hstopped e t hend
  · rw [hrun] at hend
    exact hend

/-- What holds of the state whatever it is can be assumed of the program. -/
theorem assuming {p : Prop} (h : p → Ends before program after stopped) :
    Ends (fun s => p ∧ before s) program after stopped :=
  ⟨fun s hs => (h hs.1).run s hs.2⟩

/-! ### The parts of a program -/

/-- A program that is known from where it starts. -/
theorem of_runOn (h : ∀ s, before s → ∃ a t, runOn program s = (.ok a, t) ∧ after a t) :
    Ends before program after stopped := by
  refine ⟨fun s hs => ?_⟩
  obtain ⟨a, t, hrun, hafter⟩ := h s hs
  rw [hrun]
  exact hafter

theorem pure {a : α} (h : ∀ s, before s → after a s) :
    Ends before (Pure.pure a : ExceptT ε (StateM σ) α) after stopped :=
  ⟨h⟩

theorem throw {e : ε} (h : ∀ s, before s → stopped e s) :
    Ends before (MonadExcept.throw e : ExceptT ε (StateM σ) α) after stopped :=
  ⟨h⟩

theorem bind {first : ExceptT ε (StateM σ) α} {next : α → ExceptT ε (StateM σ) β}
    {result : α → σ → Prop} {after : β → σ → Prop} (hfirst : Ends before first result stopped)
    (hnext : ∀ a, Ends (result a) (next a) after stopped) :
    Ends before (first >>= next) after stopped := by
  refine ⟨fun s hs => ?_⟩
  have hend := hfirst.run s hs
  rw [runOn_bind]
  rcases hrun : runOn first s with ⟨e | a, t⟩
  · rw [hrun] at hend
    exact hend
  · rw [hrun] at hend
    exact (hnext a).run t hend

/-- A sequence whose first part has a known result. -/
theorem bind_known {first : ExceptT ε (StateM σ) α} {next : α → ExceptT ε (StateM σ) β} {a : α}
    {after : β → σ → Prop} (hfirst : Ends before first (fun b s => b = a ∧ middle s) stopped)
    (hnext : Ends middle (next a) after stopped) : Ends before (first >>= next) after stopped := by
  refine hfirst.bind fun b => assuming ?_
  rintro rfl
  exact hnext

/-- A loop keeps what each of its turns keeps. -/
theorem forM {xs : List α} {body : α → ExceptT ε (StateM σ) PUnit}
    (h : ∀ x ∈ xs, Ends before (body x) (fun _ => before) stopped) :
    Ends before (xs.forM body) (fun _ => before) stopped := by
  induction xs with
  | nil => exact pure fun _ hs => hs
  | cons x rest ih =>
    refine (h x List.mem_cons_self).bind fun _ => ih ?_
    exact fun y hy => h y (List.mem_cons_of_mem x hy)

end Ends

end TableQuery
