/-
TableQuery/Proofs/Settings/SetUp.lean

Setting up the log, and what a set-up that fails leaves behind.

`SetUp` says all that one set-up can do, with one constructor for each way: a
log with a handler is left alone; otherwise the handler is added, and then the
level of the root and those of the named logs are set, up to the first that is
not known.  The handler is what tells the next set-up that there is nothing to
do, and it is there before anything can fail.  So a set-up with an unknown
level, which changes no level, still keeps every later one from having an
effect, until the handlers are cleared; then nothing is left of it
(`LeavesHandler`).

That a log has no handler can be told from what has happened to it: nothing
yet, or the handlers were cleared last (`handlers_after_eq_zero_iff`).

What is said of a single set-up holds for all settings.  The runs are those with
usable settings, among them the ones that the program comes with
(`load_shipped_logging`).

Main result: `failure_leaves_handler`.
-/
import Mathlib.Data.List.Induction
import TableQuery.Proofs.Named
import TableQuery.Settings.Logging
import TableQuery.Settings.Shipped

namespace TableQuery

/-! ### Levels -/

/-- A value is a level: a number, or a known name. -/
def IsLevel : Datum → Prop
  | .integer _ | .boolean _ => True
  | .text name => name ∈ namesOf namedLevels
  | _ => False

theorem levelOf_eq_error_iff {d : Datum} : (∃ e, levelOf d = .error e) ↔ ¬ IsLevel d := by
  have hok : ∀ n : Int, ¬ ∃ e : LevelError, Except.ok n = .error e := by
    rintro n ⟨e, he⟩
    cases he
  -- numbers are levels as they stand; only a text is looked up among the names
  cases d with
  | integer n => exact iff_of_false (hok n) (not_not_intro trivial)
  | boolean b => exact iff_of_false (hok _) (not_not_intro trivial)
  | text name =>
    rw [IsLevel, ← getNamed?_eq_none_iff, levelOf]
    rcases getNamed? name namedLevels with - | n
    · exact iff_of_true ⟨_, rfl⟩ rfl
    · exact iff_of_false (hok n) (Option.some_ne_none n)
  | _ => exact iff_of_true ⟨_, rfl⟩ id

/-- A level is given, and it is not known. -/
def IsUnknownLevel (level : Datum) : Prop := level ≠ .missing ∧ ¬ IsLevel level

namespace LoggingSettings

variable (settings : LoggingSettings)

/-- The level that the root gets: the one that is given, or that of the
settings. -/
def levelFor (level : Datum) : Datum :=
  match level with
  | .missing => settings.rootLevel
  | level => level

/-- The named logs with their levels, in the order in which they are set. -/
def named : SettingsTable := settings.moduleLevels ++ settings.reduceNoise

/-- Every level in the settings is known; that of the root may be left out. -/
structure KnowsLevels : Prop where
  root : settings.rootLevel = .missing ∨ IsLevel settings.rootLevel
  named : ∀ entry ∈ settings.named, IsLevel entry.2

theorem levelFor_of_ne {level : Datum} (h : level ≠ .missing) : settings.levelFor level = level := by
  unfold levelFor
  split
  · exact absurd rfl h
  · rfl

/-- The settings that hold where a file says nothing know their levels. -/
theorem knowsLevels_default : ({} : LoggingSettings).KnowsLevels := by
  have hinfo : IsLevel (.text "INFO") := by
    show "INFO" ∈ namesOf namedLevels
    decide
  have hwarning : IsLevel (.text "WARNING") := by
    show "WARNING" ∈ namesOf namedLevels
    decide
  have hnamed : ({} : LoggingSettings).named
      = [("sheet_chat.core", .text "INFO"), ("sheet_chat.ui", .text "INFO"),
        ("streamlit", .text "WARNING"), ("openpyxl", .text "WARNING")] := rfl
  -- the root has a level of its own; the named logs are those of the two tables
  refine ⟨.inr hinfo, ?_⟩
  rw [hnamed]
  simp only [List.forall_mem_cons]
  exact ⟨hinfo, hinfo, hwarning, hwarning, List.forall_mem_nil _⟩

end LoggingSettings

/-- The settings that the program comes with are the usual ones. -/
theorem load_shipped_logging :
    LoggingSettings.load Shipped.logging = pure (UsableSettings.usual : LoggingSettings) := by
  rfl

namespace LogState

variable {settings : LoggingSettings} {level : Datum} {s : LogState}

/-! ### One set-up -/

/-- All that a set-up can do. -/
inductive SetUp (settings : LoggingSettings) (level : Datum) (s : LogState) :
    LogState × Except LevelError Unit → Prop
  | done : s.handlers ≠ 0 → SetUp settings level s (s, .ok ())
  | rootKept : s.handlers = 0 → settings.levelFor level = .missing →
      SetUp settings level s (setLevels settings.named s.addHandler)
  | rootRefused {e : LevelError} : s.handlers = 0 → settings.levelFor level ≠ .missing →
      levelOf (settings.levelFor level) = .error e → SetUp settings level s (s.addHandler, .error e)
  | rootSet {n : Int} : s.handlers = 0 → levelOf (settings.levelFor level) = .ok n →
      SetUp settings level s (setLevels settings.named { s.addHandler with rootLevel := n })

/-- A log with a handler is set up already. -/
theorem configure_of_handlers (hs : s.handlers ≠ 0) :
    s.configure settings level = (s, .ok ()) := by
  unfold configure
  exact if_pos hs

/-- Without a handler it is added first, and the levels are set after it. -/
theorem configure_of_no_handlers (hs : s.handlers = 0) :
    s.configure settings level
      = match settings.levelFor level with
        | .missing => setLevels settings.named s.addHandler
        | level => match levelOf level with
          | .error e => (s.addHandler, .error e)
          | .ok n => setLevels settings.named { s.addHandler with rootLevel := n } := by
  unfold configure
  exact if_neg (not_not_intro hs)

theorem setUp_configure (settings : LoggingSettings) (level : Datum) (s : LogState) :
    SetUp settings level s (s.configure settings level) := by
  -- the handler decides first, then whether the root gets a level, then which
  by_cases hs : s.handlers = 0
  · rw [configure_of_no_handlers hs]
    split
    · next hroot => exact .rootKept hs hroot
    · next hroot =>
      split
      · next he => exact .rootRefused hs hroot he
      · next hn => exact .rootSet hs hn
  · rw [configure_of_handlers hs]
    exact .done hs

/-- Setting a level leaves the handlers alone. -/
theorem handlers_setLevel (s : LogState) (name : String) (n : Int) :
    (s.setLevel name n).handlers = s.handlers := by
  rw [setLevel]
  split
  · rfl
  · rfl

/-- Setting levels leaves the handlers alone. -/
theorem handlers_setLevels (named : List (String × Datum)) (s : LogState) :
    (setLevels named s).1.handlers = s.handlers := by
  induction named generalizing s with
  | nil => rfl
  | cons entry named ih =>
    rw [setLevels]
    split
    -- the first unknown level ends the run, with the log as it is then
    · rfl
    · rw [ih, handlers_setLevel]

/-- Known levels are all set. -/
theorem setLevels_eq_ok {named : List (String × Datum)} (h : ∀ entry ∈ named, IsLevel entry.2)
    (s : LogState) : (setLevels named s).2 = .ok () := by
  induction named generalizing s with
  | nil => rfl
  | cons entry named ih =>
    obtain ⟨hentry, hnamed⟩ := List.forall_mem_cons.1 h
    rw [setLevels]
    split
    · next e he => exact absurd hentry (levelOf_eq_error_iff.1 ⟨e, he⟩)
    · exact ih hnamed _

/-- The set-up fails. -/
def Fails (settings : LoggingSettings) (level : Datum) (s : LogState) : Prop :=
  ∃ e, (s.configure settings level).2 = .error e

/-- After a set-up there is a handler, whether it fails or not. -/
theorem handlers_configure (settings : LoggingSettings) (level : Datum) (s : LogState) :
    (s.configure settings level).1.handlers ≠ 0 := by
  have hadded : s.addHandler.handlers ≠ 0 := Nat.succ_ne_zero _
  have hsetUp := setUp_configure settings level s
  generalize s.configure settings level = result at hsetUp ⊢
  -- unless there was a handler it is added first, and no level removes it
  cases hsetUp with
  | done hs => exact hs
  | rootKept _ _ => rwa [handlers_setLevels]
  | rootRefused _ _ _ => exact hadded
  | rootSet _ _ => rwa [handlers_setLevels]

/-- A set-up that fails finds no handler. -/
theorem Fails.handlers_eq_zero (h : Fails settings level s) : s.handlers = 0 := by
  obtain ⟨e, he⟩ := h
  have hsetUp := setUp_configure settings level s
  generalize s.configure settings level = result at hsetUp he
  cases hsetUp with
  | done _ => cases he
  | rootKept hs _ => exact hs
  | rootRefused hs _ _ => exact hs
  | rootSet hs _ => exact hs

/-- An unknown level: the handler is added and nothing else is done. -/
theorem configure_of_unknown (hs : s.handlers = 0) (h : IsUnknownLevel level) :
    ∃ e, s.configure settings level = (s.addHandler, .error e) := by
  obtain ⟨e, he⟩ := levelOf_eq_error_iff.2 h.2
  have hroot : settings.levelFor level = level := settings.levelFor_of_ne h.1
  have hsetUp := setUp_configure settings level s
  generalize s.configure settings level = result at hsetUp ⊢
  -- of the four ways only the refused root has an unknown level of its own
  cases hsetUp with
  | done hnot => exact absurd hs hnot
  | rootKept _ hmissing => exact absurd (hroot.symm.trans hmissing) h.1
  | rootRefused _ _ _ => exact ⟨_, rfl⟩
  | rootSet _ hn =>
    rw [hroot, he] at hn
    cases hn

theorem fails_iff_of_unknown (h : IsUnknownLevel level) :
    Fails settings level s ↔ s.handlers = 0 := by
  refine ⟨Fails.handlers_eq_zero, fun hs => ?_⟩
  obtain ⟨e, he⟩ := configure_of_unknown hs h
  exact ⟨e, congrArg Prod.snd he⟩

/-- Where all levels are known nothing fails. -/
theorem not_fails_of_known (hsettings : settings.KnowsLevels) (h : ¬ IsUnknownLevel level) :
    ¬ Fails settings level s := by
  have hroot : settings.levelFor level = .missing ∨ IsLevel (settings.levelFor level) := by
    -- the level is the one of the settings, which is known, or the one that is given
    by_cases hmissing : level = .missing
    · rw [hmissing]
      exact hsettings.root
    · rw [settings.levelFor_of_ne hmissing]
      exact .inr (not_not.1 fun hnot => h ⟨hmissing, hnot⟩)
  rintro ⟨e, he⟩
  have hsetUp := setUp_configure settings level s
  generalize s.configure settings level = result at hsetUp he
  cases hsetUp with
  | done _ => cases he
  | rootKept _ _ =>
    -- a root without a level leaves only the named logs to fail, and they are known
    rw [setLevels_eq_ok hsettings.named] at he
    cases he
  -- the root is refused only for a level that is neither left out nor known
  | rootRefused _ hne he' =>
    exact levelOf_eq_error_iff.1 ⟨_, he'⟩ (hroot.resolve_left hne)
  | rootSet _ _ =>
    rw [setLevels_eq_ok hsettings.named] at he
    cases he

end LogState

/-! ### Runs -/

/-- What can happen to a log.  The settings are read anew for each set-up. -/
inductive LogStep where
  | configure (settings : UsableSettings) (level : Datum)
  | addHandler
  | clearHandlers

namespace LogState

/-- The log after a step, whether it fails or not. -/
def step (s : LogState) : LogStep → LogState
  | .configure settings level => (s.configure settings level).1
  | .addHandler => s.addHandler
  | .clearHandlers => s.clearHandlers

/-- The log after a sequence of steps. -/
def after (s : LogState) (steps : List LogStep) : LogState := steps.foldl step s

theorem after_cons (s : LogState) (x : LogStep) (steps : List LogStep) :
    s.after (x :: steps) = (s.step x).after steps := rfl

theorem after_concat (s : LogState) (steps : List LogStep) (x : LogStep) :
    s.after (steps ++ [x]) = (s.after steps).step x := List.foldl_append

/-- Nothing has happened yet, or the handlers were cleared last. -/
def Bare (steps : List LogStep) : Prop := ∀ x ∈ steps.getLast?, x = .clearHandlers

/-- Every step but one leaves a handler. -/
theorem handlers_step_eq_zero_iff {s : LogState} {x : LogStep} :
    (s.step x).handlers = 0 ↔ x = .clearHandlers := by
  cases x with
  | configure settings level =>
    exact iff_of_false (handlers_configure settings level s) (fun h => nomatch h)
  | addHandler => exact iff_of_false (Nat.succ_ne_zero _) (fun h => nomatch h)
  | clearHandlers => exact iff_of_true rfl rfl

/-- **A log is without a handler** exactly at the start and right after the
handlers were cleared. -/
theorem handlers_after_eq_zero_iff (steps : List LogStep) :
    (after {} steps).handlers = 0 ↔ Bare steps := by
  rcases List.eq_nil_or_concat steps with rfl | ⟨front, x, rfl⟩
  · exact iff_of_true rfl (fun _ h => nomatch h)
  -- what was before the last step does not matter: it alone says whether there is a handler
  · rw [List.concat_eq_append, after_concat, handlers_step_eq_zero_iff, Bare, List.getLast?_concat]
    exact ⟨fun h _ hy => (Option.some.inj hy).symm.trans h, fun h => h x rfl⟩

/-- While there is a handler and none is cleared, no level changes. -/
theorem levels_after {s : LogState} (hs : s.handlers ≠ 0) {steps : List LogStep}
    (h : .clearHandlers ∉ steps) :
    (s.after steps).rootLevel = s.rootLevel ∧ (s.after steps).levels = s.levels := by
  -- induction on the steps: a handler stays until it is cleared, and set-ups look at it first
  induction steps generalizing s with
  | nil => exact ⟨rfl, rfl⟩
  | cons x steps ih =>
    rw [List.mem_cons, not_or] at h
    have hx : (s.step x).handlers ≠ 0 := fun hzero => h.1 (handlers_step_eq_zero_iff.1 hzero).symm
    have hlevels : (s.step x).rootLevel = s.rootLevel ∧ (s.step x).levels = s.levels := by
      cases x with
      | configure settings level =>
        have hdone : s.configure settings level = (s, .ok ()) := configure_of_handlers hs
        rw [step, hdone]
        exact ⟨rfl, rfl⟩
      | addHandler => exact ⟨rfl, rfl⟩
      | clearHandlers => exact absurd rfl h.1
    obtain ⟨hroot, hnamed⟩ := ih hx h.2
    rw [after_cons]
    exact ⟨hroot.trans hlevels.1, hnamed.trans hlevels.2⟩

/-! ### What a failure leaves behind -/

/-- What a failed set-up makes of a log.  It leaves a handler where there was
none and changes no level.  Whatever happens next changes none either, until
the handlers are cleared, and then the log is what it was. -/
structure LeavesHandler (s t : LogState) : Prop where
  handlers : s.handlers = 0 ∧ t.handlers = 1
  rootLevel : t.rootLevel = s.rootLevel
  levels : t.levels = s.levels
  ignored : ∀ later, .clearHandlers ∉ later →
    (t.after later).rootLevel = s.rootLevel ∧ (t.after later).levels = s.levels
  cleared : ∀ later, .clearHandlers ∉ later → t.after (later ++ [.clearHandlers]) = s

theorem leavesHandler_addHandler {s : LogState} (hs : s.handlers = 0) :
    LeavesHandler s s.addHandler := by
  have hadded : s.addHandler.handlers ≠ 0 := Nat.succ_ne_zero _
  refine ⟨⟨hs, congrArg (· + 1) hs⟩, rfl, rfl, fun later h => levels_after hadded h, ?_⟩
  intro later h
  obtain ⟨hroot, hlevels⟩ := levels_after hadded h
  -- clearing sets the handlers back to none, which is what `s` had
  rw [after_concat, step, clearHandlers, hroot, hlevels, ← hs]
  rfl

/-- A failed set-up leaves no trace: the log is what it was, and a set-up with a
known level, or with none given, has the effect that it would have had. -/
structure NoTrace (settings : LoggingSettings) (level : Datum) (s : LogState) : Prop where
  unchanged : Fails settings level s → (s.configure settings level).1 = s
  next : Fails settings level s → ∀ next, ¬ IsUnknownLevel next →
    (s.configure settings level).1.configure settings next = s.configure settings next

/-- There is a trace of every failure: the handler. -/
theorem noTrace_iff {settings : LoggingSettings} {level : Datum} {s : LogState} :
    NoTrace settings level s ↔ ¬ Fails settings level s := by
  constructor
  -- a failure adds a handler where there was none, so it cannot leave the log unchanged
  · intro h hfails
    have hhandlers := handlers_configure settings level s
    rw [h.unchanged hfails] at hhandlers
    exact hhandlers hfails.handlers_eq_zero
  -- without a failure there is nothing to leave a trace
  · intro h
    exact ⟨fun hfails => absurd hfails h, fun hfails => absurd hfails h⟩

/-- **A failed set-up leaves its handler behind, and nothing else.**  After any
sequence of steps, a set-up with an unknown level fails exactly if there is no
handler, that is at the start or right after the handlers were cleared.  Then
the levels are what they were, but the handler stays and keeps every later
set-up from having an effect until it is cleared.  Nothing else fails as long
as the settings know their levels, and no failure is without a trace. -/
theorem failure_leaves_handler (steps : List LogStep) (settings : UsableSettings)
    (level : Datum) :
    let s := after {} steps
    (IsUnknownLevel level → (Fails settings level s ↔ Bare steps) ∧
      (Fails settings level s → LeavesHandler s (s.configure settings level).1)) ∧
    (settings.KnowsLevels → ¬ IsUnknownLevel level → ¬ Fails settings level s) ∧
    (NoTrace settings level s ↔ ¬ Fails settings level s) := by
  intro s
  refine ⟨fun hlevel => ⟨?_, fun hfails => ?_⟩, not_fails_of_known, noTrace_iff⟩
  -- an unknown level is refused at every log without a handler
  · rw [fails_iff_of_unknown hlevel, handlers_after_eq_zero_iff]
  -- what a failure found was a log without a handler, and all it did was to add one
  · have hs : s.handlers = 0 := hfails.handlers_eq_zero
    obtain ⟨e, he⟩ := configure_of_unknown hs hlevel
    rw [he]
    exact leavesHandler_addHandler hs

/-- Steps after which a log has no handler. -/
def clearedSteps : List LogStep :=
  [.configure .usual (.text "DEBUG"), .addHandler, .clearHandlers]

theorem failure_leaves_handler_loud :
    IsUnknownLevel (.text "LOUD") ∧ Bare clearedSteps ∧
      Fails {} (.text "LOUD") (after {} clearedSteps) ∧
      LeavesHandler (after {} clearedSteps)
        ((after {} clearedSteps).configure {} (.text "LOUD")).1 ∧
      ({} : LoggingSettings).KnowsLevels ∧ ¬ IsUnknownLevel (.text "ERROR") ∧
      ¬ Fails {} (.text "ERROR") (after {} clearedSteps) := by
  have hloud : IsUnknownLevel (.text "LOUD") := by
    refine ⟨(fun h => nomatch h), ?_⟩
    show "LOUD" ∉ namesOf namedLevels
    decide
  have hbare : Bare clearedSteps := fun x hx => (Option.some.inj hx).symm
  have hsettings : ({} : LoggingSettings).KnowsLevels := LoggingSettings.knowsLevels_default
  have herror : ¬ IsUnknownLevel (.text "ERROR") := by
    rintro ⟨-, h⟩
    refine h ?_
    show "ERROR" ∈ namesOf namedLevels
    decide
  obtain ⟨hunknown, -, -⟩ := failure_leaves_handler clearedSteps .usual (.text "LOUD")
  obtain ⟨-, hknown, -⟩ := failure_leaves_handler clearedSteps .usual (.text "ERROR")
  have hfails := (hunknown hloud).1.2 hbare
  exact ⟨hloud, hbare, hfails, (hunknown hloud).2 hfails, hsettings, herror,
    hknown hsettings herror⟩

/-- A level that is misspelt at the start: the set-up fails, and the one after
it, without a level of its own, sets none of the levels that it would have
set. -/
theorem loud_leaves_trace :
    ({} : LogState).configure {} (.text "LOUD") = ({ handlers := 1 }, .error (.unknown "LOUD")) ∧
      ({ handlers := 1 } : LogState).configure {} .missing = ({ handlers := 1 }, .ok ()) ∧
      ({} : LogState).configure {} .missing
        = ({ handlers := 1, rootLevel := 20,
             levels := [("sheet_chat.core", 20), ("sheet_chat.ui", 20), ("streamlit", 30),
               ("openpyxl", 30)] }, .ok ()) ∧
      ¬ NoTrace {} (.text "LOUD") {} := by
  refine ⟨rfl, rfl, rfl, fun h => ?_⟩
  have hfails : Fails {} (.text "LOUD") {} := ⟨_, rfl⟩
  exact absurd (congrArg handlers (h.unchanged hfails)) (by decide)

end LogState

end TableQuery
