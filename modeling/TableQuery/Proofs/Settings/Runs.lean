/-
TableQuery/Proofs/Settings/Runs.lean

Loaders as steps of a run.

A loader is a list of entries or variables that are gone through one after the
other, so what one more of them does can be said without looking at the rest:
if the steps behind it leave its effect alone, the run with it is the run
without it, and then the effect (`Loaded.foldlM_insert`).  That is an equation
between loaders.  It says that the warnings are the same and that a run that
fails without the step fails in the same way with it.

For this the order in which steps are grouped must not matter, which is the law
of a monad.
-/
import TableQuery.Proofs.Settings.Entries

namespace TableQuery

namespace Loaded

variable {α β γ : Type}

/-! ### Laws -/

/-- Loading in steps does not depend on how the steps are grouped. -/
instance : LawfulMonad Loaded :=
  .mk' Loaded
    (by
      rintro α ⟨warnings, e | a⟩
      · rfl
      · exact congrArg (Loaded.mk · (.ok a)) (List.append_nil warnings))
    (fun _ _ => rfl)
    (by
      rintro α β γ ⟨warnings, e | a⟩ f g
      · rfl
      · show Loaded.bind (Loaded.bind _ f) g = Loaded.bind _ fun a => Loaded.bind (f a) g
        simp only [Loaded.bind]
        rcases f a with ⟨more, e | b⟩
        · rfl
        · simp only [List.append_assoc])

theorem outcome_map (f : α → β) (x : Loaded α) : (f <$> x).outcome = f <$> x.outcome := by
  rcases x with ⟨warnings, e | a⟩
  · rfl
  · rfl

/-- What follows a loader matters only for what the loader yields. -/
theorem bind_congr_of_ok {x : Loaded α} {f f' : α → Loaded β}
    (h : ∀ a, x.outcome = .ok a → f a = f' a) : x >>= f = x >>= f' := by
  rcases x with ⟨warnings, e | a⟩
  · rfl
  · show Loaded.bind _ f = Loaded.bind _ f'
    rw [Loaded.bind, Loaded.bind]
    dsimp only
    rw [h a rfl]

/-! ### Runs -/

variable {p : β → Prop} {f : β → α → Loaded β} {g : β → β} {xs ys : List α} {x : α} {b : β}

/-- A run from a changed state is changed in the same way, if each step is. -/
theorem foldlM_image (hkept : ∀ y ∈ ys, ∀ b b', p b → (f b y).outcome = .ok b' → p b')
    (hstep : ∀ y ∈ ys, ∀ b, p b → f (g b) y = g <$> f b y) (hb : p b) :
    ys.foldlM f (g b) = g <$> ys.foldlM f b := by
  induction ys generalizing b with
  | nil => exact (map_pure g b).symm
  | cons y ys ih =>
    obtain ⟨hkepty, hkeptys⟩ := List.forall_mem_cons.1 hkept
    obtain ⟨hy, hys⟩ := List.forall_mem_cons.1 hstep
    rw [List.foldlM_cons, List.foldlM_cons, hy b hb, bind_map_left, map_bind]
    exact bind_congr_of_ok fun next hnext => ih hkeptys hys (hkepty b next hb hnext)

/-- **One more step in the middle of a run.**  What it does to the state it does
to the result, if the steps behind it leave that alone. -/
theorem foldlM_insert (hkept : ∀ y ∈ xs ++ ys, ∀ b b', p b → (f b y).outcome = .ok b' → p b')
    (hx : ∀ b, p b → f b x = pure (g b))
    (hstep : ∀ y ∈ ys, ∀ b, p b → f (g b) y = g <$> f b y) (hb : p b) :
    (xs ++ x :: ys).foldlM f b = g <$> (xs ++ ys).foldlM f b := by
  -- on the steps in front, which are the same in both runs
  induction xs generalizing b with
  | nil =>
    rw [List.nil_append, List.foldlM_cons, hx b hb, pure_bind]
    exact foldlM_image hkept hstep hb
  | cons y xs ih =>
    obtain ⟨hkepty, hkeptrest⟩ := List.forall_mem_cons.1 hkept
    rw [List.cons_append, List.cons_append, List.foldlM_cons, List.foldlM_cons, map_bind]
    exact bind_congr_of_ok fun next hnext => ih hkeptrest (hkepty b next hb hnext)

/-- One more step that fails, in the middle of a run that succeeds without it. -/
theorem foldlM_insert_error
    (hkept : ∀ y ∈ xs ++ ys, ∀ b b', p b → (f b y).outcome = .ok b' → p b') {e : SettingsError}
    (hx : ∀ b, p b → (f b x).outcome = .error e) (hb : p b) {b' : β}
    (h : ((xs ++ ys).foldlM f b).outcome = .ok b') :
    ((xs ++ x :: ys).foldlM f b).outcome = .error e := by
  rw [List.foldlM_append] at h ⊢
  obtain ⟨next, hnext, -⟩ := outcome_bind_eq_ok h
  have hp : p next :=
    foldlM_induction (fun y hy => hkept y (List.mem_append_left _ hy)) hb hnext
  rw [bind_of_ok hnext, List.foldlM_cons]
  exact outcome_bind_of_error (hx next hp)

end Loaded

end TableQuery
