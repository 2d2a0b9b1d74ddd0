/-
TableQuery/Proofs/Settings/Containment.lean

What a bad value in the file or the environment can do.

A bad text in the environment is treated alike by all settings: the value is
the one that there would be without the variable, and there is a warning
(`Contained`).  Each variable overrides a setting of its own, so what one of
them does is not undone by the ones behind it (`applyOverrides_spec`).

With what the entries of a file do, this gives the main result,
`settings_contained`.  Its one condition is that no infinity stands where a
whole number belongs; `settings_escape_infinite` shows what an infinity does.
-/
import TableQuery.Proofs.Settings.Entries

namespace TableQuery

/-! ### The environment -/

/-- A variable has a text that cannot be turned into the kind of the value that
it overrides. -/
def Unreadable (environment : Environment) (name : String) (present : Datum) (text : String)
    (error : CoercionError) : Prop :=
  getNamed? name environment = some text ∧
    Datum.coerce present.settingKind (.text text) = .error error

/-- If a variable cannot be read, the value stays as it was, with a warning. -/
def StaysIfUnreadable (environment : Environment) (name key : String)
    (before after : SettingsTable) (warnings : List SettingsWarning) : Prop :=
  ∀ present text error, getNamed? key before = some present →
    Unreadable environment name present text error →
      getNamed? key after = some present ∧
        .environment name text present.settingKind error ∈ warnings

/-- Variables that cannot be read leave the values as they were, with
warnings. -/
def Contained (environment : Environment) (mapping : List (String × String))
    (before after : SettingsTable) (warnings : List SettingsWarning) : Prop :=
  ∀ name key, (name, key) ∈ mapping →
    StaysIfUnreadable environment name key before after warnings

variable {environment : Environment} {mapping : List (String × String)}
variable {settings : SettingsTable} {items : List (Datum × Datum)}

/-- Overriding one setting by a variable that is no infinity. -/
theorem overrideOne_spec {name key : String}
    (hfinite : ∀ present text, getNamed? key settings = some present →
      present.settingKind = .whole → getNamed? name environment = some text →
        (Datum.text text).isInfinite = false) :
    ∃ next, (overrideOne environment settings name key).outcome = .ok next ∧
      (∀ other ≠ key, getNamed? other next = getNamed? other settings) ∧
      StaysIfUnreadable environment name key settings next
        (overrideOne environment settings name key).warnings := by
  rw [overrideOne]
  split
  · next text present htext hpresent =>
    have hsame {present' : Datum} {text' : String} (hp : getNamed? key settings = some present')
        (ht : getNamed? name environment = some text') : present' = present ∧ text' = text :=
      ⟨Option.some.inj (hp.symm.trans hpresent), Option.some.inj (ht.symm.trans htext)⟩
    -- a text that can be read overrides the value, and then there is nothing to show
    split
    · next value hvalue =>
      refine ⟨_, rfl, fun other hne => getNamed?_setNamed_of_ne hne _ _, ?_⟩
      rintro _ _ error hp ⟨ht, herror⟩
      obtain ⟨rfl, rfl⟩ := hsame hp ht
      rw [hvalue] at herror
      cases herror
    · next error herror =>
      have hrange : error.isOverflow = false :=
        Datum.isOverflow_of_coerce_text herror fun hkind =>
          hfinite present text hpresent hkind htext
      rw [hrange, if_neg Bool.false_ne_true]
      refine ⟨settings, rfl, fun _ _ => rfl, ?_⟩
      rintro _ _ error' hp ⟨ht, herror'⟩
      obtain ⟨rfl, rfl⟩ := hsame hp ht
      rw [herror] at herror'
      obtain rfl := Except.error.inj herror'
      exact ⟨hp, List.mem_singleton_self _⟩
  -- without a text or a value there is nothing to read
  · next hnone =>
    refine ⟨settings, rfl, fun _ _ => rfl, ?_⟩
    rintro present text error hp ⟨ht, -⟩
    exact absurd hp (hnone text present ht)

/-- Further warnings change nothing. -/
theorem Contained.mono {before after : SettingsTable} {warnings more : List SettingsWarning}
    (h : Contained environment mapping before after warnings) (hsub : warnings ⊆ more) :
    Contained environment mapping before after more := by
  intro name key hmem present text error hpresent hunreadable
  obtain ⟨hstays, hwarned⟩ := h name key hmem present text error hpresent hunreadable
  exact ⟨hstays, hsub hwarned⟩

/-- Overriding settings by variables that are no infinities. -/
theorem applyOverrides_spec (environment : Environment) {mapping : List (String × String)}
    (settings : SettingsTable) (hkeys : (mapping.map (·.2)).Nodup)
    (hfinite : ∀ name key, (name, key) ∈ mapping → ∀ present text,
      getNamed? key settings = some present → present.settingKind = .whole →
        getNamed? name environment = some text → (Datum.text text).isInfinite = false) :
    ∃ after, (applyOverrides environment mapping settings).outcome = .ok after ∧
      (∀ key ∉ mapping.map (·.2), getNamed? key after = getNamed? key settings) ∧
      Contained environment mapping settings after
        (applyOverrides environment mapping settings).warnings := by
  induction mapping generalizing settings with
  | nil => exact ⟨settings, rfl, fun _ _ => rfl, by simp [Contained]⟩
  | cons entry rest ih =>
    obtain ⟨name, key⟩ := entry
    obtain ⟨hfresh, hrest⟩ := List.nodup_cons.1 hkeys
    obtain ⟨next, hnext, hothers, hhead⟩ :=
      overrideOne_spec (hfinite name key List.mem_cons_self)
    -- the first key does not come again, so the other settings are as they were
    have hsame : ∀ name' key', (name', key') ∈ rest →
        getNamed? key' next = getNamed? key' settings := by
      intro name' key' hmem
      refine hothers key' ?_
      rintro rfl
      exact hfresh (List.mem_map.2 ⟨_, hmem, rfl⟩)
    have hfinite' : ∀ name' key', (name', key') ∈ rest → ∀ present text,
        getNamed? key' next = some present → present.settingKind = .whole →
          getNamed? name' environment = some text → (Datum.text text).isInfinite = false := by
      intro name' key' hmem present text hpresent
      rw [hsame name' key' hmem] at hpresent
      exact hfinite name' key' (List.mem_cons_of_mem _ hmem) present text hpresent
    obtain ⟨after, hafter, hkept, htail⟩ := ih next hrest hfinite'
    have hrun : applyOverrides environment ((name, key) :: rest) settings
        = ⟨(overrideOne environment settings name key).warnings
            ++ (applyOverrides environment rest next).warnings,
          (applyOverrides environment rest next).outcome⟩ := by
      rw [applyOverrides, List.foldlM_cons, Loaded.bind_of_ok hnext]
      rfl
    rw [hrun]
    refine ⟨after, hafter, ?_, ?_⟩
    · intro other hother
      rw [List.map_cons, List.mem_cons, not_or] at hother
      rw [hkept other hother.2, hothers other hother.1]
    · intro name' key' hmem present text error hpresent hunreadable
      rcases List.mem_cons.1 hmem with heq | hmem
      · obtain ⟨rfl, rfl⟩ := Prod.mk.inj heq
        obtain ⟨hstays, hwarned⟩ := hhead present text error hpresent hunreadable
        rw [hkept key' hfresh]
        exact ⟨hstays, List.mem_append_left _ hwarned⟩
      · rw [← hsame name' key' hmem] at hpresent
        obtain ⟨hstays, hwarned⟩ := htail name' key' hmem present text error hpresent hunreadable
        exact ⟨hstays, List.mem_append_right _ hwarned⟩

/-- None of the variables is set. -/
def Unset (environment : Environment) (mapping : List (String × String)) : Prop :=
  ∀ name ∈ namesOf mapping, getNamed? name environment = none

/-- Variables that are not set override nothing. -/
theorem applyOverrides_of_unset (h : Unset environment mapping) (settings : SettingsTable) :
    applyOverrides environment mapping settings = pure settings := by
  induction mapping with
  | nil => rfl
  | cons entry rest ih =>
    obtain ⟨hname, hrest⟩ := List.forall_mem_cons.1 h
    rw [applyOverrides, List.foldlM_cons]
    show overrideOne environment settings entry.1 entry.2 >>= _ = _
    rw [overrideOne, hname]
    exact ih hrest

/-- An environment without variables overrides nothing. -/
theorem applyOverrides_nil (mapping : List (String × String)) (settings : SettingsTable) :
    applyOverrides [] mapping settings = pure settings :=
  applyOverrides_of_unset (fun _ _ => rfl) settings

/-! ### Loaded settings -/

theorem load_contained (h : NoInfinity limitDefaults limitVariables items environment) :
    (∃ e, (LoadedQuery.load (.entries items) environment).outcome = .error e ∧
        (LoadedQuery.load (.entries items) []).outcome = .error e ∧ Refuses items e) ∨
      ∃ before after, (LoadedQuery.load (.entries items) []).outcome = .ok before ∧
        (LoadedQuery.load (.entries items) environment).outcome = .ok after ∧
        after.vocabulary = before.vocabulary ∧
        Contained environment limitVariables before.limits after.limits
          (LoadedQuery.load (.entries items) environment).warnings := by
  rw [load_entries, load_entries]
  rcases foldlM_readEntry_cases h.file with ⟨e, he, hrefuses⟩ | ⟨read, hread, hknown⟩
  · exact .inl ⟨e, Loaded.outcome_bind_of_error he, Loaded.outcome_bind_of_error he, hrefuses⟩
  · obtain ⟨limits, hlimits, -, hcontained⟩ :=
      applyOverrides_spec environment read.limits (by decide : (limitVariables.map (·.2)).Nodup)
        fun name key hmem present text hpresent _ htext =>
          h.environment name key text hmem (hknown key present hpresent) htext
    rw [Loaded.bind_of_ok hread, Loaded.bind_of_ok hread, applyOverrides_nil,
      Loaded.bind_of_ok hlimits]
    refine .inr ⟨read, { read with limits }, rfl, rfl, rfl, hcontained.mono ?_⟩
    exact fun w hw => List.mem_append_right _ (List.mem_append_left _ hw)

theorem loadInterface_contained
    (h : NoInfinity interfaceDefaults interfaceVariables items environment) :
    ∃ before after, (loadInterface (.entries items) []).outcome = .ok before ∧
      (loadInterface (.entries items) environment).outcome = .ok after ∧
      FallsBack items interfaceDefaults before
        (loadInterface (.entries items) environment).warnings ∧
      Contained environment interfaceVariables before after
        (loadInterface (.entries items) environment).warnings := by
  obtain ⟨read, hread, hnumbers, hback⟩ := exists_foldlM_readInterfaceEntry h.file
  obtain ⟨after, hafter, -, hcontained⟩ :=
    applyOverrides_spec environment read (by decide : (interfaceVariables.map (·.2)).Nodup)
      fun name key hmem present text hpresent hkind htext =>
        h.environment name key text hmem (hnumbers key present hpresent hkind) htext
  rw [loadInterface_entries, loadInterface_entries, Loaded.bind_of_ok hread,
    Loaded.bind_of_ok hread, applyOverrides_nil]
  refine ⟨read, after, rfl, hafter, ?_, hcontained.mono (List.subset_append_right _ _)⟩
  exact ⟨hback.default, fun key default value error hdefault hentry herror =>
    List.mem_append_left _ (hback.warned key default value error hdefault hentry herror)⟩

/-- **Bad values are contained**, as long as no infinity stands where a whole
number belongs.  The settings of questions are loaded, or the file is refused
for one of its entries, and the environment has no say in that.  The settings
of the page are always loaded, and a setting that the file gives no usable
value for falls back to its default.  In both, a variable that cannot be read
leaves the value that there would be without it, with a warning. -/
theorem settings_contained (items : List (Datum × Datum)) (environment : Environment) :
    (NoInfinity limitDefaults limitVariables items environment →
      (∃ e, (LoadedQuery.load (.entries items) environment).outcome = .error e ∧
          (LoadedQuery.load (.entries items) []).outcome = .error e ∧ Refuses items e) ∨
        ∃ before after, (LoadedQuery.load (.entries items) []).outcome = .ok before ∧
          (LoadedQuery.load (.entries items) environment).outcome = .ok after ∧
          after.vocabulary = before.vocabulary ∧
          Contained environment limitVariables before.limits after.limits
            (LoadedQuery.load (.entries items) environment).warnings) ∧
      (NoInfinity interfaceDefaults interfaceVariables items environment →
        ∃ before after, (loadInterface (.entries items) []).outcome = .ok before ∧
          (loadInterface (.entries items) environment).outcome = .ok after ∧
          FallsBack items interfaceDefaults before
            (loadInterface (.entries items) environment).warnings ∧
          Contained environment interfaceVariables before after
            (loadInterface (.entries items) environment).warnings) :=
  ⟨load_contained, loadInterface_contained⟩

/-- A file with a word and a list where numbers belong. -/
def badValues : List (Datum × Datum) :=
  [(.text "distribution_top_n", .text "three"), (.text "preview_rows", .list [.integer 5]),
    (.integer 7, .missing)]

/-- An environment with texts that are no whole numbers. -/
def badTexts : Environment := [("SUMMARY_ROW_THRESHOLD", "many"), ("PREVIEW_ROWS", "nan")]

theorem noInfinity_badValues (defaults : SettingsTable) (mapping : List (String × String)) :
    NoInfinity defaults mapping badValues badTexts where
  file := by
    intro entry hentry key _ _
    simp only [badValues, List.mem_cons, List.not_mem_nil, or_false] at hentry
    rcases hentry with rfl | rfl | rfl
    · decide +kernel
    · rfl
    · rfl
  environment := by
    intro name key text _ _ htext
    have hmem := mem_of_getNamed? htext
    simp only [badTexts, List.mem_cons, List.not_mem_nil, Prod.mk.injEq, or_false] at hmem
    rcases hmem with ⟨-, rfl⟩ | ⟨-, rfl⟩
    · decide +kernel
    · decide +kernel

/-- The bad file is refused as settings of questions, and as settings of the
page leaves the number of rows at its default, which the bad text does not
change. -/
theorem settings_contained_badValues :
    NoInfinity limitDefaults limitVariables badValues badTexts ∧
      NoInfinity interfaceDefaults interfaceVariables badValues badTexts ∧
      (∃ e, (LoadedQuery.load (.entries badValues) badTexts).outcome = .error e ∧
        Refuses badValues e) ∧
      ∃ settings, (loadInterface (.entries badValues) badTexts).outcome = .ok settings ∧
        getNamed? "preview_rows" settings = some (.integer 20) ∧
        .environment "PREVIEW_ROWS" "nan" .whole .notANumber
          ∈ (loadInterface (.entries badValues) badTexts).warnings := by
  have hlimits : NoInfinity limitDefaults limitVariables badValues badTexts :=
    noInfinity_badValues _ _
  have hpage : NoInfinity interfaceDefaults interfaceVariables badValues badTexts :=
    noInfinity_badValues _ _
  obtain ⟨hquery, hinterface⟩ := settings_contained badValues badTexts
  refine ⟨hlimits, hpage, ?_, ?_⟩
  -- the query's settings are refused, as running the loader shows
  · rcases hquery hlimits with ⟨e, he, -, hrefuses⟩ | ⟨before, after, -, hafter, -⟩
    · exact ⟨e, he, hrefuses⟩
    · have hfails : (LoadedQuery.load (.entries badValues) badTexts).outcome.isOk = false := by
        decide +kernel
      rw [hafter] at hfails
      cases hfails
  -- the page's settings fall back on the default, with a warning for the variable
  · obtain ⟨before, after, -, hafter, hback, hcontained⟩ := hinterface hpage
    have hdefault : getNamed? "preview_rows" before = some (.integer 20) := by
      refine hback.default "preview_rows" (.integer 20) rfl ?_
      intro value hentry
      simp only [badValues, List.mem_cons, List.not_mem_nil, Prod.mk.injEq, Datum.text.injEq,
        or_false] at hentry
      rcases hentry with ⟨h, -⟩ | ⟨-, rfl⟩ | ⟨h, -⟩
      · exact absurd h (by decide)
      · exact ⟨_, rfl⟩
      · cases h
    have hunreadable : Unreadable badTexts "PREVIEW_ROWS" (.integer 20) "nan" .notANumber :=
      ⟨by decide, rfl⟩
    obtain ⟨hstays, hwarned⟩ := hcontained "PREVIEW_ROWS" "preview_rows" (by decide) (.integer 20)
      "nan" .notANumber hdefault hunreadable
    exact ⟨after, hafter, hstays, hwarned⟩

/-- An infinity is not contained, neither in the file, for the settings of
questions or of the page, nor in the environment. -/
theorem settings_escape_infinite :
    (LoadedQuery.load (.entries [(.text "summary_row_threshold", .real (.infinite false))])
        []).outcome = .error (.overflow .infinite) ∧
      (loadInterface (.entries [(.text "preview_rows", .text "1e999")]) []).outcome
        = .error (.overflow .infinite) ∧
      (loadInterface (.entries []) [("PREVIEW_ROWS", "inf")]).outcome
        = .error (.overflow .infinite) :=
  ⟨rfl, rfl, rfl⟩

end TableQuery
