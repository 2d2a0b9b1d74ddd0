/-
TableQuery/Proofs/Settings/Kinds.lean

The kinds of loaded settings.

A setting starts as its default, the file may replace it, and the environment
may override it.  Both turn what they are given into the kind of what is
there, so the kind of the default is kept through all three, however often a
value is replaced (`HasKind`).  There is one way out: a value that the file
gives as nothing is taken over as nothing, and then the environment finds no
kind to turn its text into.  So the main result is about the settings that the
file does not give as nothing, and `settings_givenAsNothing` shows what becomes
of those that it does.

Main result: `settings_keepKinds`.
-/
import TableQuery.Proofs.Named
import TableQuery.Settings.Interface
import TableQuery.Settings.Query

namespace TableQuery

/-! ### Loaders that succeed -/

namespace Loaded

variable {α β : Type}

/-- A loader after another succeeds if both do. -/
theorem outcome_bind_eq_ok {x : Loaded α} {f : α → Loaded β} {b : β}
    (h : (x >>= f).outcome = .ok b) : ∃ a, x.outcome = .ok a ∧ (f a).outcome = .ok b := by
  change (Loaded.bind x f).outcome = .ok b at h
  rw [Loaded.bind] at h
  split at h
  · cases h
  · next a ha => exact ⟨a, ha, h⟩

theorem exists_outcome_eq_ok {x : Loaded α} (h : x.outcome.isOk = true) :
    ∃ a, x.outcome = .ok a := by
  rcases hx : x.outcome with e | a
  · rw [hx] at h
    cases h
  · exact ⟨a, rfl⟩

/-- What each step keeps is kept by a run that succeeds. -/
theorem foldlM_induction {p : β → Prop} {f : β → α → Loaded β} {xs : List α}
    (hstep : ∀ x ∈ xs, ∀ b b', p b → (f b x).outcome = .ok b' → p b') {b b' : β} (hb : p b)
    (h : (xs.foldlM f b).outcome = .ok b') : p b' := by
  induction xs generalizing b with
  | nil =>
    obtain rfl := Except.ok.inj h
    exact hb
  | cons x xs ih =>
    rw [List.foldlM_cons] at h
    obtain ⟨next, hnext, hrest⟩ := outcome_bind_eq_ok h
    obtain ⟨hx, hxs⟩ := List.forall_mem_cons.1 hstep
    exact ih hxs (hx b next hb hnext) hrest

end Loaded

/-! ### Values of a kind -/

/-- A number that text, or a value that is there, is turned into has the kind
that was asked for. -/
theorem settingKind_coerce {kind : SettingKind} {value result : Datum}
    (hkind : kind = .whole ∨ kind = .text) (hvalue : value ≠ .missing)
    (h : Datum.coerce kind value = .ok result) : result.settingKind = kind := by
  rcases hkind with rfl | rfl
  -- the clause for a missing value comes first; apart from it the kind decides
  · have hcoerce : Datum.coerce .whole value = .integer <$> value.toWhole := by
      cases value with
      | missing => exact absurd rfl hvalue
      | _ => rfl
    rw [hcoerce] at h
    rcases hn : value.toWhole with e | n
    · rw [hn] at h
      cases h
    · rw [hn] at h
      obtain rfl := Except.ok.inj h
      rfl
  · have hcoerce : Datum.coerce .text value = .ok (.text value.plainText) := by
      cases value with
      | missing => exact absurd rfl hvalue
      | _ => rfl
    rw [hcoerce] at h
    obtain rfl := Except.ok.inj h
    rfl

/-- A setting is there and has a value of this kind. -/
def HasKind (key : String) (kind : SettingKind) (settings : SettingsTable) : Prop :=
  ∃ value, getNamed? key settings = some value ∧ value.settingKind = kind

variable {key : String} {kind : SettingKind} {settings result : SettingsTable}

theorem HasKind.setNamed_self {value : Datum} (h : value.settingKind = kind) :
    HasKind key kind (setNamed key value settings) :=
  ⟨value, getNamed?_setNamed_self key value settings, h⟩

theorem HasKind.setNamed_of_ne (h : HasKind key kind settings) {other : String}
    (hne : key ≠ other) (value : Datum) : HasKind key kind (setNamed other value settings) := by
  obtain ⟨v, hv, hkind⟩ := h
  exact ⟨v, by rw [getNamed?_setNamed_of_ne hne, hv], hkind⟩

/-! ### The environment -/

/-- Overriding a setting keeps the kind of every setting. -/
theorem HasKind.overrideOne (hkind : kind = .whole ∨ kind = .text) (h : HasKind key kind settings)
    {environment : Environment} {name other : String}
    (hresult : (overrideOne environment settings name other).outcome = .ok result) :
    HasKind key kind result := by
  rw [TableQuery.overrideOne] at hresult
  split at hresult
  · next text present htext hpresent =>
    split at hresult
    · next value hvalue =>
      obtain rfl := Except.ok.inj hresult
      by_cases hkey : key = other
      · subst hkey
        -- the value that is there has the kind, and the text is turned into it
        obtain ⟨v, hv, rfl⟩ := h
        rw [hpresent] at hv
        obtain rfl := Option.some.inj hv
        exact .setNamed_self (settingKind_coerce hkind (by simp) hvalue)
      · exact h.setNamed_of_ne hkey value
    -- a text that cannot be read fails or is passed over
    · split at hresult
      · cases hresult
      · obtain rfl := Except.ok.inj hresult
        exact h
  · obtain rfl := Except.ok.inj hresult
    exact h

theorem HasKind.applyOverrides (hkind : kind = .whole ∨ kind = .text)
    (h : HasKind key kind settings) {environment : Environment}
    {mapping : List (String × String)}
    (hresult : (applyOverrides environment mapping settings).outcome = .ok result) :
    HasKind key kind result :=
  Loaded.foldlM_induction (fun _ _ _ _ hb hstep => hb.overrideOne hkind hstep) h hresult

/-! ### The file -/

/-- A file gives the value of a key as nothing. -/
def GivenAsNothing (items : List (Datum × Datum)) (key : String) : Prop :=
  (Datum.text key, Datum.missing) ∈ items

theorem HasKind.readLimit {loaded next : LoadedQuery} {other : String} {value : Datum}
    (hvalue : key = other → value ≠ .missing) (h : HasKind key .whole loaded.limits)
    (hnext : (loaded.readLimit other value).outcome = .ok next) :
    HasKind key .whole next.limits := by
  rw [LoadedQuery.readLimit] at hnext
  split at hnext
  · next limit hlimit =>
    obtain rfl := Except.ok.inj hnext
    by_cases hkey : key = other
    · subst hkey
      exact .setNamed_self (settingKind_coerce (.inl rfl) (hvalue rfl) hlimit)
    · exact h.setNamed_of_ne hkey limit
  · cases hnext

/-- An entry that does not give a limit as nothing leaves it a number. -/
theorem HasKind.readEntry {loaded next : LoadedQuery} {entry : Datum × Datum}
    (hentry : entry ≠ (.text key, .missing)) (h : HasKind key .whole loaded.limits)
    (hnext : (loaded.readEntry entry).outcome = .ok next) : HasKind key .whole next.limits := by
  -- only the branch for limits writes to them, and there the value is not missing
  unfold LoadedQuery.readEntry at hnext
  split at hnext
  · next other value =>
    split at hnext
    · split at hnext
      · cases hnext
      · obtain rfl := Except.ok.inj hnext
        exact h
    · split at hnext
      · refine h.readLimit ?_ hnext
        rintro rfl rfl
        exact hentry rfl
      · obtain rfl := Except.ok.inj hnext
        exact h
  · obtain rfl := Except.ok.inj hnext
    exact h

/-- An entry that does not give a setting of the page as nothing leaves it of
the kind of its default. -/
theorem HasKind.readInterfaceEntry {entry : Datum × Datum} {default : Datum}
    (hdefault : getNamed? key interfaceDefaults = some default)
    (hkind : default.settingKind = .whole ∨ default.settingKind = .text)
    (hentry : entry ≠ (.text key, .missing)) (h : HasKind key default.settingKind settings)
    (hresult : (readInterfaceEntry settings entry).outcome = .ok result) :
    HasKind key default.settingKind result := by
  unfold TableQuery.readInterfaceEntry at hresult
  split at hresult
  · next other given =>
    split at hresult
    · obtain rfl := Except.ok.inj hresult
      exact h
    · next default' hdefault' =>
      split at hresult
      · next value hvalue =>
        obtain rfl := Except.ok.inj hresult
        -- the entry sets this setting or another, or nothing at all
        by_cases hkey : key = other
        · subst hkey
          rw [hdefault] at hdefault'
          obtain rfl := Option.some.inj hdefault'
          refine .setNamed_self (settingKind_coerce hkind ?_ hvalue)
          rintro rfl
          exact hentry rfl
        · exact h.setNamed_of_ne hkey value
      · split at hresult
        · cases hresult
        · obtain rfl := Except.ok.inj hresult
          exact h
  · obtain rfl := Except.ok.inj hresult
    exact h

/-! ### Loaded settings -/

/-- Settings have the kinds of their defaults, unless the file gives them as
nothing. -/
def KeepKinds (items : List (Datum × Datum)) (defaults settings : SettingsTable) : Prop :=
  ∀ default ∈ defaults, ¬ GivenAsNothing items default.1 →
    HasKind default.1 default.2.settingKind settings

/-- The limits without a file. -/
def limitDefaults : SettingsTable := ({} : Limits).table

theorem settingKind_limitDefaults : ∀ default ∈ limitDefaults, default.2.settingKind = .whole := by
  simp [limitDefaults, Limits.table, Datum.settingKind]

theorem settingKind_interfaceDefaults : ∀ default ∈ interfaceDefaults,
    default.2.settingKind = .whole ∨ default.2.settingKind = .text := by
  simp [interfaceDefaults, Datum.settingKind]

variable {items : List (Datum × Datum)} {environment : Environment}

theorem keepKinds_load {loaded : LoadedQuery}
    (h : (LoadedQuery.load (.entries items) environment).outcome = .ok loaded) :
    KeepKinds items limitDefaults loaded.limits := by
  obtain ⟨entries, hentries, h⟩ := Loaded.outcome_bind_eq_ok h
  obtain rfl : items = entries := Except.ok.inj hentries
  obtain ⟨read, hread, h⟩ := Loaded.outcome_bind_eq_ok h
  obtain ⟨limits, hlimits, h⟩ := Loaded.outcome_bind_eq_ok h
  obtain rfl := Except.ok.inj h
  intro default hdefault hgiven
  have hkind := settingKind_limitDefaults default hdefault
  have hstart : HasKind default.1 .whole limitDefaults :=
    ⟨default.2, getNamed?_of_mem (by decide) hdefault, hkind⟩
  have hfile : HasKind default.1 .whole read.limits := by
    refine Loaded.foldlM_induction (p := fun loaded => HasKind default.1 .whole loaded.limits)
      (fun entry hentry _ _ hb hstep => hb.readEntry ?_ hstep) hstart hread
    rintro rfl
    exact hgiven hentry
  rw [hkind]
  exact hfile.applyOverrides (.inl rfl) hlimits

theorem keepKinds_loadInterface
    (h : (loadInterface (.entries items) environment).outcome = .ok settings) :
    KeepKinds items interfaceDefaults settings := by
  obtain ⟨entries, hentries, h⟩ := Loaded.outcome_bind_eq_ok h
  obtain rfl : items = entries := Except.ok.inj hentries
  obtain ⟨read, hread, hresult⟩ := Loaded.outcome_bind_eq_ok h
  intro default hdefault hgiven
  have hkind := settingKind_interfaceDefaults default hdefault
  have hvalue : getNamed? default.1 interfaceDefaults = some default.2 :=
    getNamed?_of_mem (by decide) hdefault
  have hfile : HasKind default.1 default.2.settingKind read := by
    refine Loaded.foldlM_induction
      (fun entry hentry _ _ hb hstep => hb.readInterfaceEntry hvalue hkind ?_ hstep)
      ⟨default.2, hvalue, rfl⟩ hread
    rintro rfl
    exact hgiven hentry
  exact hfile.applyOverrides hkind hresult

/-! ### Using the settings -/

theorem HasKind.exists_integer (h : HasKind key .whole settings) :
    ∃ n, getNamed? key settings = some (.integer n) := by
  obtain ⟨value, hvalue, hkind⟩ := h
  cases value with
  | integer n => exact ⟨n, hvalue⟩
  | _ => cases hkind

theorem HasKind.exists_text (h : HasKind key .text settings) :
    ∃ s, getNamed? key settings = some (.text s) := by
  obtain ⟨value, hvalue, hkind⟩ := h
  cases value with
  | text s => exact ⟨s, hvalue⟩
  | _ => cases hkind

/-- Limits of the right kind can be compared with. -/
theorem KeepKinds.settings? {loaded : LoadedQuery} (h : KeepKinds items limitDefaults loaded.limits)
    (hgiven : ∀ key ∈ namesOf limitDefaults, ¬ GivenAsNothing items key) :
    ∃ used, loaded.settings? = some used ∧ used.vocabulary = loaded.vocabulary := by
  have hlimit : ∀ default ∈ limitDefaults, ∃ n, getNamed? default.1 loaded.limits
      = some (.integer n) := by
    intro default hdefault
    have hkind := h default hdefault (hgiven default.1 (List.mem_map_of_mem hdefault))
    rw [settingKind_limitDefaults default hdefault] at hkind
    exact hkind.exists_integer
  simp only [limitDefaults, Limits.table, List.forall_mem_cons] at hlimit
  obtain ⟨⟨rows, hrows⟩, ⟨distinct, hdistinct⟩, ⟨listed, hlisted⟩, -⟩ := hlimit
  refine ⟨⟨loaded.vocabulary, ⟨rows, distinct, listed⟩⟩, ?_, rfl⟩
  simp only [LoadedQuery.settings?, hrows, hdistinct, hlisted]
  rfl

/-- Settings of the page of the right kind can be used. -/
theorem KeepKinds.ofTable? (h : KeepKinds items interfaceDefaults settings)
    (hgiven : ∀ key ∈ namesOf interfaceDefaults, ¬ GivenAsNothing items key) :
    ∃ used, PageSettings.ofTable? settings = some used := by
  have hsetting : ∀ default ∈ interfaceDefaults,
      HasKind default.1 default.2.settingKind settings :=
    fun default hdefault => h default hdefault (hgiven default.1 (List.mem_map_of_mem hdefault))
  simp only [interfaceDefaults, List.forall_mem_cons] at hsetting
  obtain ⟨htitle, hmegabytes, hrows, -⟩ := hsetting
  obtain ⟨title, htitle⟩ := HasKind.exists_text htitle
  obtain ⟨megabytes, hmegabytes⟩ := HasKind.exists_integer hmegabytes
  obtain ⟨rows, hrows⟩ := HasKind.exists_integer hrows
  refine ⟨⟨title, megabytes, rows⟩, ?_⟩
  rw [PageSettings.ofTable?, htitle, hmegabytes, hrows]

/-- **Loaded settings have the kinds of their defaults**, so they can be
compared and calculated with, unless the file gives one of them as nothing. -/
theorem settings_keepKinds (items : List (Datum × Datum)) (environment : Environment) :
    (∀ loaded, (LoadedQuery.load (.entries items) environment).outcome = .ok loaded →
      KeepKinds items limitDefaults loaded.limits ∧
        ((∀ key ∈ namesOf limitDefaults, ¬ GivenAsNothing items key) →
          ∃ used, loaded.settings? = some used ∧ used.vocabulary = loaded.vocabulary)) ∧
      ∀ settings, (loadInterface (.entries items) environment).outcome = .ok settings →
        KeepKinds items interfaceDefaults settings ∧
          ((∀ key ∈ namesOf interfaceDefaults, ¬ GivenAsNothing items key) →
            ∃ used, PageSettings.ofTable? settings = some used) := by
  refine ⟨fun loaded h => ?_, fun settings h => ?_⟩
  · have hkinds := keepKinds_load h
    exact ⟨hkinds, hkinds.settings?⟩
  · have hkinds := keepKinds_loadInterface h
    exact ⟨hkinds, hkinds.ofTable?⟩

/-- A file with a limit as text, a number of rows as a truth value, and nothing
under keys that are no settings. -/
def partlyGiven : List (Datum × Datum) :=
  [(.text "summary_row_threshold", .text "25.9"), (.text "preview_rows", .boolean true),
    (.integer 1, .missing), (.text "colour", .missing)]

/-- Variables for two settings, one of which cannot be read. -/
def partlyReadable : Environment := [("DISTRIBUTION_TOP_N", "7"), ("MAX_UPLOAD_SIZE_MB", "many")]

theorem settings_keepKinds_partlyGiven :
    (∃ loaded, (LoadedQuery.load (.entries partlyGiven) partlyReadable).outcome = .ok loaded ∧
      KeepKinds partlyGiven limitDefaults loaded.limits ∧
        (∀ key ∈ namesOf limitDefaults, ¬ GivenAsNothing partlyGiven key) ∧
          ∃ used, loaded.settings? = some used ∧ used.vocabulary = loaded.vocabulary) ∧
      ∃ settings, (loadInterface (.entries partlyGiven) partlyReadable).outcome = .ok settings ∧
        KeepKinds partlyGiven interfaceDefaults settings ∧
          (∀ key ∈ namesOf interfaceDefaults, ¬ GivenAsNothing partlyGiven key) ∧
            ∃ used, PageSettings.ofTable? settings = some used := by
  obtain ⟨hquery, hpage⟩ := settings_keepKinds partlyGiven partlyReadable
  have hgiven : ∀ key ∈ namesOf limitDefaults, ¬ GivenAsNothing partlyGiven key := by
    simp [namesOf, limitDefaults, Limits.table, GivenAsNothing, partlyGiven]
  have hgiven' : ∀ key ∈ namesOf interfaceDefaults, ¬ GivenAsNothing partlyGiven key := by
    simp [namesOf, interfaceDefaults, GivenAsNothing, partlyGiven]
  obtain ⟨loaded, hloaded⟩ := Loaded.exists_outcome_eq_ok
    (show (LoadedQuery.load (.entries partlyGiven) partlyReadable).outcome.isOk = true by
      decide +kernel)
  obtain ⟨settings, hsettings⟩ := Loaded.exists_outcome_eq_ok
    (show (loadInterface (.entries partlyGiven) partlyReadable).outcome.isOk = true by
      decide +kernel)
  exact ⟨⟨loaded, hloaded, (hquery loaded hloaded).1, hgiven, (hquery loaded hloaded).2 hgiven⟩,
    settings, hsettings, (hpage settings hsettings).1, hgiven',
    (hpage settings hsettings).2 hgiven'⟩

/-- A file that gives a limit and a size as nothing. -/
def givenAsNothing : List (Datum × Datum) :=
  [(.text "distribution_top_n", .missing), (.text "max_upload_size_mb", .missing)]

/-- What a file gives as nothing does not keep its kind: the limit becomes the
text of the variable that overrides it, and the size, which no variable
overrides, stays nothing. -/
theorem settings_givenAsNothing :
    (∃ loaded,
        (LoadedQuery.load (.entries givenAsNothing) [("DISTRIBUTION_TOP_N", "7")]).outcome
          = .ok loaded ∧
        getNamed? "distribution_top_n" loaded.limits = some (.text "7") ∧
          loaded.settings? = none) ∧
      ∃ settings,
        (loadInterface (.entries givenAsNothing) [("DISTRIBUTION_TOP_N", "7")]).outcome
          = .ok settings ∧
        getNamed? "max_upload_size_mb" settings = some .missing ∧
          PageSettings.ofTable? settings = none :=
  ⟨⟨_, rfl, rfl, rfl⟩, _, rfl, rfl, rfl⟩

end TableQuery
