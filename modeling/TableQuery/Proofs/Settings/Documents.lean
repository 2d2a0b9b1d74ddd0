/-
TableQuery/Proofs/Settings/Documents.lean

Documents that are no settings.

The document of a settings file should be nothing or a mapping, but it can be
any value.  Each loader looks at it first, and refuses a value of another kind
by the name of its kind.  But a hollow value (a zero, no, an empty text or an
empty list) is not refused: it counts as nothing, and the loader goes on as
without a file.

What a loader does behind the document fails in other ways (`FailsOnly`), so a
refusal by kind tells which documents there can have been, whatever the
environment says.

Main result: `settings_refused`, for every document and environment.
-/
import TableQuery.Proofs.Settings.Entries
import TableQuery.Proofs.Settings.Runs
import TableQuery.Settings.Logging

namespace TableQuery

variable {document : Datum} {kind : String}

/-! ### Documents -/

/-- A document that can hold settings. -/
inductive HoldsSettings : Datum → Prop
  | nothing : HoldsSettings .missing
  | mapping (items : List (Datum × Datum)) : HoldsSettings (.entries items)

/-- A value of another kind that counts as nothing. -/
inductive Hollow : Datum → Prop
  | no : Hollow (.boolean false)
  | zero : Hollow (.integer 0)
  | realZero (negative : Bool) : Hollow (.real (.zero negative))
  | stored {value : Stored} : Hollow (Datum.stored value).unstored → Hollow (.stored value)
  | ratio (denominator : Nat) : Hollow (.ratio 0 denominator)
  | scaled {value : Numeral} : value.coefficient = 0 → Hollow (.scaled (.finite value))
  | text : Hollow (.text "")
  | octets : Hollow (.octets [])
  | list : Hollow (.list [])
  | distinct : Hollow (.distinct [])

/-- A document of this kind that is neither settings nor hollow. -/
structure Misfit (document : Datum) (kind : String) : Prop where
  noSettings : ¬ HoldsSettings document
  notHollow : ¬ Hollow document
  kind_eq : kind = document.kindName

/-- A stored value counts as what it is in its common form. -/
theorem isSomething_stored (value : Stored) :
    (Datum.stored value).isSomething = (Datum.stored value).unstored.isSomething := by
  cases value with
  | _ => rfl

theorem Hollow.isSomething_eq_false (h : Hollow document) : document.isSomething = false := by
  induction h with
  | stored _ ih => rw [isSomething_stored, ih]
  | scaled h => simp [Datum.isSomething, h]
  | _ => rfl

theorem eq_zero_of_isNonzero {x : Binary64} (h : Datum.isNonzero x = false) :
    ∃ negative, x = .zero negative := by
  cases x with
  | finite negative units representable =>
    obtain rfl : units = 0 := by simpa [Datum.isNonzero] using h
    exact ⟨negative, rfl⟩
  | infinite _ => cases h
  | nan => cases h

/-- A value that does not count as something is hollow, if it is no settings. -/
theorem hollow_of_isSomething (h : document.isSomething = false)
    (hsettings : ¬ HoldsSettings document) : Hollow document := by
  cases document with
  -- no document and an empty mapping hold settings, so they are not meant
  | missing => exact absurd .nothing hsettings
  | entries items => exact absurd (.mapping items) hsettings
  -- of each kind there is one value that counts as nothing
  | boolean b =>
    obtain rfl : b = false := h
    exact .no
  | integer n =>
    obtain rfl : n = 0 := by simpa [Datum.isSomething] using h
    exact .zero
  | real x =>
    obtain ⟨negative, rfl⟩ := eq_zero_of_isNonzero h
    exact .realZero negative
  | stored value =>
    cases value with
    | boolean b =>
      obtain rfl : b = false := h
      exact .stored .no
    | integer n =>
      obtain rfl : n = 0 := by simpa [Datum.isSomething] using h
      exact .stored .zero
    | real x =>
      obtain ⟨negative, rfl⟩ := eq_zero_of_isNonzero h
      exact .stored (.realZero negative)
  | ratio n d =>
    obtain rfl : n = 0 := by simpa [Datum.isSomething] using h
    exact .ratio d
  | scaled value =>
    cases value with
    | finite n => exact .scaled (by simpa [Datum.isSomething] using h)
    | infinite _ => cases h
    | notNumber _ _ _ => cases h
  | text s =>
    obtain rfl : s = "" := by simpa [Datum.isSomething] using h
    exact .text
  | octets o =>
    obtain rfl : o = [] := by simpa [Datum.isSomething] using h
    exact .octets
  | list items =>
    obtain rfl : items = [] := by simpa [Datum.isSomething] using h
    exact .list
  | distinct items =>
    obtain rfl : items = [] := by simpa [Datum.isSomething] using h
    exact .distinct
  -- values of the other kinds always count as something
  | _ => cases h

theorem documentEntries_of_hollow (h : Hollow document) :
    documentEntries document = documentEntries .missing := by
  unfold documentEntries
  split
  · cases h
  · rw [h.isSomething_eq_false]
    rfl

theorem documentEntries_of_misfit (h : Misfit document kind) :
    documentEntries document = .fail (.notMapping kind) := by
  obtain ⟨hsettings, hhollow, rfl⟩ := h
  have hsome : document.isSomething = true := by
    by_contra hnothing
    exact hhollow (hollow_of_isSomething (Bool.eq_false_iff.2 hnothing) hsettings)
  unfold documentEntries
  split
  · exact absurd (.mapping _) hsettings
  · exact if_pos hsome

/-- Entries are found in all documents but the misfits. -/
theorem exists_documentEntries (h : ∀ kind, ¬ Misfit document kind) :
    ∃ items, documentEntries document = pure items := by
  by_cases hsettings : HoldsSettings document
  · cases hsettings with
    | nothing => exact ⟨[], rfl⟩
    | mapping items => exact ⟨items, rfl⟩
  · by_cases hhollow : Hollow document
    · exact ⟨[], documentEntries_of_hollow hhollow⟩
    · exact absurd ⟨hsettings, hhollow, rfl⟩ (h document.kindName)

/-! ### How loaders fail -/

/-- An error of range. -/
def SettingsError.isRange : SettingsError → Bool
  | .overflow _ => true
  | _ => false

/-- An error of a value in a document, not of the whole. -/
def SettingsError.isInside : SettingsError → Bool
  | .unreadable _ | .notMapping _ => false
  | _ => true

theorem isInside_of_isRange : ∀ e : SettingsError, e.isRange = true → e.isInside = true
  | .overflow _, _ => rfl

namespace Loaded

variable {α β : Type} {x : Loaded α} {p : SettingsError → Bool}

/-- If the loader fails, then with such an error. -/
def FailsOnly (p : SettingsError → Bool) (x : Loaded α) : Prop :=
  ∀ e, x.outcome = .error e → p e = true

theorem failsOnly_of_ok {a : α} (h : x.outcome = .ok a) : x.FailsOnly p := by
  intro e he
  rw [h] at he
  cases he

theorem failsOnly_fail {e : SettingsError} (h : p e = true) : (fail e : Loaded α).FailsOnly p := by
  intro e' he
  obtain rfl := Except.error.inj he
  exact h

theorem FailsOnly.mono {q : SettingsError → Bool} (hx : x.FailsOnly p)
    (h : ∀ e, p e = true → q e = true) : x.FailsOnly q :=
  fun e he => h e (hx e he)

theorem FailsOnly.bind (hx : x.FailsOnly p) {f : α → Loaded β} (hf : ∀ a, (f a).FailsOnly p) :
    (x >>= f).FailsOnly p := by
  intro e he
  rcases hx' : x.outcome with e' | a
  · rw [outcome_bind_of_error hx'] at he
    obtain rfl := Except.error.inj he
    exact hx _ hx'
  · rw [bind_of_ok hx'] at he
    exact hf a e he

/-- A run fails only as its steps do. -/
theorem failsOnly_foldlM {f : β → α → Loaded β} (hf : ∀ b a, (f b a).FailsOnly p) (xs : List α)
    (b : β) : (xs.foldlM f b).FailsOnly p := by
  induction xs generalizing b with
  | nil => exact failsOnly_of_ok rfl
  | cons x xs ih =>
    rw [List.foldlM_cons]
    exact (hf b x).bind ih

end Loaded

theorem failsOnly_readEntry (loaded : LoadedQuery) (entry : Datum × Datum) :
    (loaded.readEntry entry).FailsOnly SettingsError.isInside := by
  unfold LoadedQuery.readEntry
  split
  · split
    -- words
    · split
      · exact Loaded.failsOnly_fail rfl
      · exact Loaded.failsOnly_of_ok rfl
    -- a limit, which fails in one of two ways, or an unknown key
    · split
      · unfold LoadedQuery.readLimit
        split
        · exact Loaded.failsOnly_of_ok rfl
        · refine Loaded.failsOnly_fail ?_
          split
          · rfl
          · rfl
      · exact Loaded.failsOnly_of_ok rfl
  · exact Loaded.failsOnly_of_ok rfl

theorem failsOnly_readInterfaceEntry (settings : SettingsTable) (entry : Datum × Datum) :
    (readInterfaceEntry settings entry).FailsOnly SettingsError.isRange := by
  unfold readInterfaceEntry
  split
  · split
    · exact Loaded.failsOnly_of_ok rfl
    · split
      · exact Loaded.failsOnly_of_ok rfl
      · split
        · exact Loaded.failsOnly_fail rfl
        · exact Loaded.failsOnly_of_ok rfl
  · exact Loaded.failsOnly_of_ok rfl

theorem failsOnly_overrideOne (environment : Environment) (settings : SettingsTable)
    (name key : String) :
    (overrideOne environment settings name key).FailsOnly SettingsError.isRange := by
  unfold overrideOne
  split
  · split
    · exact Loaded.failsOnly_of_ok rfl
    · split
      · exact Loaded.failsOnly_fail rfl
      · exact Loaded.failsOnly_of_ok rfl
  · exact Loaded.failsOnly_of_ok rfl

theorem failsOnly_applyOverrides (environment : Environment) (mapping : List (String × String))
    (settings : SettingsTable) :
    (applyOverrides environment mapping settings).FailsOnly SettingsError.isRange :=
  Loaded.failsOnly_foldlM (fun settings (name, key) =>
    failsOnly_overrideOne environment settings name key) mapping settings

/-! ### What a loader makes of a document -/

/-- A loader that does not itself fail by a kind refuses exactly the misfits. -/
theorem outcome_documentEntries_bind_iff {α : Type} {read : List (Datum × Datum) → Loaded α}
    (hread : ∀ items, (read items).FailsOnly SettingsError.isInside) :
    (documentEntries document >>= read).outcome = .error (.notMapping kind)
      ↔ Misfit document kind := by
  constructor
  · intro h
    by_cases hmisfit : ∃ kind', Misfit document kind'
    · -- the refusal names the one kind that a misfit has
      obtain ⟨kind', hkind'⟩ := hmisfit
      rw [documentEntries_of_misfit hkind'] at h
      cases h
      exact hkind'
    · -- behind the entries of any other document no failure is of this form
      obtain ⟨items, hitems⟩ := exists_documentEntries (not_exists.1 hmisfit)
      rw [hitems, Loaded.bind_of_ok rfl] at h
      cases hread items _ h
  · intro h
    rw [documentEntries_of_misfit h]
    rfl

theorem load_refuses_iff (environment : Environment) :
    (LoadedQuery.load document environment).outcome = .error (.notMapping kind)
      ↔ Misfit document kind := by
  refine outcome_documentEntries_bind_iff fun items => ?_
  refine (Loaded.failsOnly_foldlM failsOnly_readEntry items {}).bind fun loaded => ?_
  have hover := failsOnly_applyOverrides environment limitVariables loaded.limits
  exact (hover.mono isInside_of_isRange).bind fun _ => Loaded.failsOnly_of_ok rfl

theorem loadInterface_refuses_iff (environment : Environment) :
    (loadInterface document environment).outcome = .error (.notMapping kind)
      ↔ Misfit document kind := by
  refine outcome_documentEntries_bind_iff fun items => ?_
  have hread := Loaded.failsOnly_foldlM failsOnly_readInterfaceEntry items interfaceDefaults
  refine (hread.bind fun settings => ?_).mono isInside_of_isRange
  exact failsOnly_applyOverrides environment interfaceVariables settings

theorem loadLogging_refuses_iff :
    (LoggingSettings.load document).outcome = .error (.notMapping kind)
      ↔ Misfit document kind :=
  outcome_documentEntries_bind_iff fun _ => Loaded.failsOnly_of_ok rfl

/-- Without a file, only a variable can be at fault, and only by its range. -/
theorem failsOnly_load_missing (environment : Environment) :
    (LoadedQuery.load .missing environment).FailsOnly SettingsError.isRange := by
  have hover := failsOnly_applyOverrides environment limitVariables ({} : LoadedQuery).limits
  show (pure [] >>= _ : Loaded LoadedQuery).FailsOnly _
  rw [pure_bind, List.foldlM_nil, pure_bind]
  exact hover.bind fun _ => Loaded.failsOnly_of_ok rfl

theorem failsOnly_loadInterface_missing (environment : Environment) :
    (loadInterface .missing environment).FailsOnly SettingsError.isRange := by
  show (pure [] >>= _ : Loaded SettingsTable).FailsOnly _
  rw [pure_bind, List.foldlM_nil, pure_bind]
  exact failsOnly_applyOverrides environment interfaceVariables interfaceDefaults

/-- **What the loaders make of a document.**  Each refuses by its kind a
document that is neither settings nor hollow, under every environment, and no
other.  Of a hollow document they make what they make of no file, and it is no
error but for a variable that is out of range. -/
theorem settings_refused (document : Datum) (environment : Environment) :
    (∀ kind,
      ((LoadedQuery.load document environment).outcome = .error (.notMapping kind)
        ↔ Misfit document kind) ∧
      ((loadInterface document environment).outcome = .error (.notMapping kind)
        ↔ Misfit document kind) ∧
      ((LoggingSettings.load document).outcome = .error (.notMapping kind)
        ↔ Misfit document kind)) ∧
    (Hollow document →
      LoadedQuery.load document environment = LoadedQuery.load .missing environment ∧
      (LoadedQuery.load document environment).FailsOnly SettingsError.isRange ∧
      loadInterface document environment = loadInterface .missing environment ∧
      (loadInterface document environment).FailsOnly SettingsError.isRange ∧
      LoggingSettings.load document = pure {}) := by
  refine ⟨fun kind => ⟨load_refuses_iff environment, loadInterface_refuses_iff environment,
    loadLogging_refuses_iff⟩, fun hhollow => ?_⟩
  have hentries := documentEntries_of_hollow hhollow
  have hquery : LoadedQuery.load document environment = LoadedQuery.load .missing environment :=
    congrArg (· >>= _) hentries
  have hpage : loadInterface document environment = loadInterface .missing environment :=
    congrArg (· >>= _) hentries
  have hlog : LoggingSettings.load document = LoggingSettings.load .missing :=
    congrArg (· >>= _) hentries
  exact ⟨hquery, hquery ▸ failsOnly_load_missing environment, hpage,
    hpage ▸ failsOnly_loadInterface_missing environment, hlog⟩

/-- A text is refused before the bad variable is looked at; a zero leaves the
limit to the variable, as no file does. -/
theorem settings_refused_greeting :
    ((LoadedQuery.load (.text "hello") [("SUMMARY_ROW_THRESHOLD", "inf")]).outcome
        = .error (.notMapping "str") ∧
      (loadInterface (.text "hello") [("SUMMARY_ROW_THRESHOLD", "inf")]).outcome
        = .error (.notMapping "str") ∧
      (LoggingSettings.load (.text "hello")).outcome = .error (.notMapping "str")) ∧
    LoadedQuery.load (.integer 0) [("SUMMARY_ROW_THRESHOLD", "7")]
      = LoadedQuery.load .missing [("SUMMARY_ROW_THRESHOLD", "7")] := by
  have hhollow : ¬ Hollow (.text "hello") := fun h =>
    absurd h.isSomething_eq_false (by decide)
  have hmisfit : Misfit (.text "hello") "str" := ⟨nofun, hhollow, rfl⟩
  obtain ⟨hquery, hpage, hlog⟩ :=
    (settings_refused (.text "hello") [("SUMMARY_ROW_THRESHOLD", "inf")]).1 "str"
  refine ⟨⟨hquery.2 hmisfit, hpage.2 hmisfit, hlog.2 hmisfit⟩, ?_⟩
  exact ((settings_refused (.integer 0) [("SUMMARY_ROW_THRESHOLD", "7")]).2 .zero).1

/-- An empty list is no mapping, and the loaders take it for defaults. -/
theorem settings_notRefused_emptyList :
    ¬ HoldsSettings (.list []) ∧
      (LoadedQuery.load (.list []) []).outcome = .ok {} ∧
      (loadInterface (.list []) []).outcome = .ok interfaceDefaults ∧
      (LoggingSettings.load (.list [])).outcome = .ok {} :=
  ⟨nofun, rfl, rfl, rfl⟩

end TableQuery
