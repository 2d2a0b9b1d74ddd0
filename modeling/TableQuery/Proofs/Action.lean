/-
TableQuery/Proofs/Action.lean

Actions that change a state and can fail, as functions.

A shelf action and a drawing are the same kind of program: steps in order,
any of which may stop the rest, on a state that keeps what was changed before
the stop.  `runOn` is such a program as a function from a state to a result
and the state after it.  There is one lemma for each way in which a program
is put together, so that the later modules compute with programs and never
unfold the monad.
-/

namespace TableQuery

variable {ε σ α β : Type}

/-- The result of an action and the state after it. -/
def runOn (action : ExceptT ε (StateM σ) α) (s : σ) : Except ε α × σ :=
  action.run.run s

/-! ### The parts of a program -/

@[simp] theorem runOn_pure (a : α) (s : σ) :
    runOn (pure a : ExceptT ε (StateM σ) α) s = (.ok a, s) := rfl

@[simp] theorem runOn_throw (e : ε) (s : σ) :
    runOn (throw e : ExceptT ε (StateM σ) α) s = (.error e, s) := rfl

@[simp] theorem runOn_get (s : σ) :
    runOn (get : ExceptT ε (StateM σ) σ) s = (.ok s, s) := rfl

@[simp] theorem runOn_modify (f : σ → σ) (s : σ) :
    runOn (modify f : ExceptT ε (StateM σ) PUnit) s = (.ok ⟨⟩, f s) := rfl

/-- A sequence goes on from the state that its first part leaves, and stops
there if that part fails. -/
theorem runOn_bind (first : ExceptT ε (StateM σ) α) (next : α → ExceptT ε (StateM σ) β) (s : σ) :
    runOn (first >>= next) s
      = match runOn first s with
        | (.ok a, t) => runOn (next a) t
        | (.error e, t) => (.error e, t) := by
  show (match runOn first s with
    | (result, t) => runOn (ExceptT.mk (ExceptT.bindCont next result)) t) = _
  rcases runOn first s with ⟨e | a, t⟩
  · rfl
  · rfl

/-- A sequence whose first part succeeds. -/
theorem runOn_bind_ok {first : ExceptT ε (StateM σ) α} {s t : σ} {a : α}
    (h : runOn first s = (.ok a, t)) (next : α → ExceptT ε (StateM σ) β) :
    runOn (first >>= next) s = runOn (next a) t := by
  rw [runOn_bind, h]

/-- A sequence whose first part fails. -/
theorem runOn_bind_error {first : ExceptT ε (StateM σ) α} {s t : σ} {e : ε}
    (h : runOn first s = (.error e, t)) (next : α → ExceptT ε (StateM σ) β) :
    runOn (first >>= next) s = (.error e, t) := by
  rw [runOn_bind, h]

end TableQuery
