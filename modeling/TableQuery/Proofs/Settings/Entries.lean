/-
TableQuery/Proofs/Settings/Entries.lean

What the entries of a file do to the settings.

The two loaders differ in what they make of a bad value.  Settings of questions
are refused, with an error that names the entry (`Refuses`); a setting of the
page falls back to its default, with a warning (`FallsBack`).  For each loader
a relation says all that one entry can do (`PageEntryRead`,
`QuestionEntryRead`), with one constructor for each way, and the facts about
whole files follow from it entry by entry.  No constructor is a failure of
range, which is where the files without infinities come in.

Main results: `exists_foldlM_readInterfaceEntry` and `foldlM_readEntry_cases`.
-/
import TableQuery.Proofs.Settings.Infinity

namespace TableQuery

/-! ### Loaders in sequence -/

namespace Loaded

variable {α β : Type}

theorem bind_of_ok {x : Loaded α} {f : α → Loaded β} {a : α} (h : x.outcome = .ok a) :
    x >>= f = ⟨x.warnings ++ (f a).warnings, (f a).outcome⟩ := by
  show Loaded.bind x f = _
  rw [Loaded.bind, h]

theorem outcome_bind_of_error {x : Loaded α} {f : α → Loaded β} {e : SettingsError}
    (h : x.outcome = .error e) : (x >>= f).outcome = .error e := by
  show (Loaded.bind x f).outcome = _
  rw [Loaded.bind, h]

variable {p : β → Prop} {f : β → α → Loaded β} {xs : List α} {b : β}

/-- A run succeeds if every step does. -/
theorem exists_foldlM_eq_ok (hstep : ∀ x ∈ xs, ∀ b, ∃ b', (f b x).outcome = .ok b') :
    ∃ b', (xs.foldlM f b).outcome = .ok b' := by
  induction xs generalizing b with
  | nil => exact ⟨b, rfl⟩
  | cons x xs ih =>
    obtain ⟨hx, hxs⟩ := List.forall_mem_cons.1 hstep
    obtain ⟨next, hnext⟩ := hx b
    rw [List.foldlM_cons, bind_of_ok hnext]
    exact ih hxs

/-- A run that fails has a step that does, at a state that the steps before it
have kept in order. -/
theorem exists_of_foldlM_eq_error (hstep : ∀ x ∈ xs, ∀ b b', p b → (f b x).outcome = .ok b' → p b')
    (hb : p b) {e : SettingsError} (h : (xs.foldlM f b).outcome = .error e) :
    ∃ x ∈ xs, ∃ b, p b ∧ (f b x).outcome = .error e := by
  induction xs generalizing b with
  | nil => cases h
  | cons x xs ih =>
    obtain ⟨hx, hxs⟩ := List.forall_mem_cons.1 hstep
    rcases hnext : (f b x).outcome with e' | next
    · rw [List.foldlM_cons, outcome_bind_of_error hnext] at h
      obtain rfl := Except.error.inj h
      exact ⟨x, List.mem_cons_self, b, hb, hnext⟩
    · rw [List.foldlM_cons, bind_of_ok hnext] at h
      obtain ⟨y, hy, hfound⟩ := ih hxs (hx b next hb hnext) h
      exact ⟨y, List.mem_cons_of_mem x hy, hfound⟩

/-- What a step warns of at every state is among the warnings of a run that
succeeds. -/
theorem mem_warnings_foldlM {b' : β} (h : (xs.foldlM f b).outcome = .ok b') {x : α} (hx : x ∈ xs)
    {w : SettingsWarning} (hw : ∀ b, w ∈ (f b x).warnings) : w ∈ (xs.foldlM f b).warnings := by
  induction xs generalizing b with
  | nil => cases hx
  | cons y xs ih =>
    rw [List.foldlM_cons] at h ⊢
    obtain ⟨next, hnext, hrest⟩ := outcome_bind_eq_ok h
    rw [bind_of_ok hnext]
    rcases List.mem_cons.1 hx with rfl | hx
    · exact List.mem_append_left _ (hw b)
    · exact List.mem_append_right _ (ih hrest hx)

end Loaded

variable {settings : SettingsTable} {items : List (Datum × Datum)}

/-! ### Settings of the page -/

/-- A setting that the file gives only values for that cannot be turned into
its kind is as it is without a file, and there is a warning for each. -/
structure FallsBack (items : List (Datum × Datum)) (defaults before : SettingsTable)
    (warnings : List SettingsWarning) : Prop where
  default : ∀ key default, getNamed? key defaults = some default →
    (∀ value, (.text key, value) ∈ items →
      ∃ error, Datum.coerce default.settingKind value = .error error) →
    getNamed? key before = some default
  warned : ∀ key default value error, getNamed? key defaults = some default →
    (.text key, value) ∈ items → Datum.coerce default.settingKind value = .error error →
      .value key value.plainText default.settingKind error ∈ warnings

/-- What an entry of the file does to the settings of the page: a value that can
be turned into the kind of the default is taken over, any other is warned of,
and a key that no setting has is passed over. -/
inductive PageEntryRead (settings : SettingsTable) : Datum × Datum → Loaded SettingsTable → Prop
  | taken {key : String} {default value result : Datum} :
      getNamed? key interfaceDefaults = some default →
      Datum.coerce default.settingKind value = .ok result →
        PageEntryRead settings (.text key, value) (pure (setNamed key result settings))
  | warned {key : String} {default value : Datum} {error : CoercionError} :
      getNamed? key interfaceDefaults = some default →
      Datum.coerce default.settingKind value = .error error →
        PageEntryRead settings (.text key, value)
          (.warn (.value key value.plainText default.settingKind error) settings)
  | passed {entry : Datum × Datum} :
      (∀ key default, entry.1 = .text key → getNamed? key interfaceDefaults ≠ some default) →
        PageEntryRead settings entry (pure settings)

/-- An entry without an infinity is read. -/
theorem readInterfaceEntry_spec {entry : Datum × Datum}
    (hfinite : FiniteEntry interfaceDefaults entry) (settings : SettingsTable) :
    PageEntryRead settings entry (readInterfaceEntry settings entry) := by
  unfold readInterfaceEntry
  split
  · next key value =>
    split
    · next hnone =>
      refine .passed ?_
      rintro other default hkey hdefault
      obtain rfl := Datum.text.inj hkey
      rw [hnone] at hdefault
      cases hdefault
    · next default hdefault =>
      split
      · next result hresult => exact .taken hdefault hresult
      · next error herror =>
        -- a whole number does not fail by its range without an infinity, a text never fails
        have hrange : error.isOverflow = false := by
          rcases settingKind_interfaceDefaults _ (mem_of_getNamed? hdefault) with hkind | hkind
          · have hnumber : IsNumber interfaceDefaults key := ⟨default, hdefault, hkind⟩
            change default.settingKind = .whole at hkind
            rw [hkind] at herror
            rw [Datum.isOverflow_of_coerce_whole herror, hfinite key hnumber rfl]
          · obtain ⟨result, hresult, -⟩ := Datum.exists_coerce_text value
            change default.settingKind = .text at hkind
            rw [hkind, hresult] at herror
            cases herror
        rw [hrange, if_neg Bool.false_ne_true]
        exact .warned hdefault herror
  -- a key that is no text is under none of the names
  · next hkey =>
    refine .passed ?_
    intro key default h
    exact (hkey key entry.2 (Prod.ext h rfl)).elim

namespace PageEntryRead

variable {entry : Datum × Datum} {loaded : Loaded SettingsTable} {next : SettingsTable}

theorem exists_ok (h : PageEntryRead settings entry loaded) : ∃ next, loaded.outcome = .ok next := by
  cases h with
  | taken => exact ⟨_, rfl⟩
  | warned => exact ⟨_, rfl⟩
  | passed => exact ⟨_, rfl⟩

theorem numbersByDefault (h : PageEntryRead settings entry loaded)
    (hsettings : NumbersByDefault interfaceDefaults settings) (hnext : loaded.outcome = .ok next) :
    NumbersByDefault interfaceDefaults next := by
  cases h with
  | @taken key default value result hdefault hresult =>
    obtain rfl := Except.ok.inj hnext
    intro other present hpresent hkind
    by_cases hkey : other = key
    · subst hkey
      rw [getNamed?_setNamed_self] at hpresent
      obtain rfl := Option.some.inj hpresent
      refine ⟨default, hdefault, ?_⟩
      -- what is turned into text is no number afterwards
      rcases settingKind_interfaceDefaults _ (mem_of_getNamed? hdefault) with hdkind | hdkind
      · exact hdkind
      · change default.settingKind = .text at hdkind
        rw [hdkind] at hresult
        obtain ⟨text, htext, hne⟩ := Datum.exists_coerce_text value
        rw [htext] at hresult
        obtain rfl := Except.ok.inj hresult
        exact absurd hkind hne
    · rw [getNamed?_setNamed_of_ne hkey] at hpresent
      exact hsettings other present hpresent hkind
  | warned =>
    obtain rfl := Except.ok.inj hnext
    exact hsettings
  | passed =>
    obtain rfl := Except.ok.inj hnext
    exact hsettings

/-- A setting stays its default if no value that is read can be turned into its
kind. -/
theorem stays {key : String} {default : Datum} (h : PageEntryRead settings entry loaded)
    (hdefault : getNamed? key interfaceDefaults = some default)
    (hbad : ∀ value, entry = (.text key, value) →
      ∃ error, Datum.coerce default.settingKind value = .error error)
    (hsettings : getNamed? key settings = some default) (hnext : loaded.outcome = .ok next) :
    getNamed? key next = some default := by
  cases h with
  | @taken other default' value result hdefault' hresult =>
    obtain rfl := Except.ok.inj hnext
    rw [getNamed?_setNamed_of_ne ?_, hsettings]
    -- an entry for this key would have been coerced, which `hbad` excludes
    rintro rfl
    rw [hdefault] at hdefault'
    obtain rfl := Option.some.inj hdefault'
    obtain ⟨error, herror⟩ := hbad value rfl
    rw [hresult] at herror
    cases herror
  | warned =>
    obtain rfl := Except.ok.inj hnext
    exact hsettings
  | passed =>
    obtain rfl := Except.ok.inj hnext
    exact hsettings

theorem mem_warnings {key : String} {default value : Datum} {error : CoercionError}
    (h : PageEntryRead settings (.text key, value) loaded)
    (hdefault : getNamed? key interfaceDefaults = some default)
    (herror : Datum.coerce default.settingKind value = .error error) :
    .value key value.plainText default.settingKind error ∈ loaded.warnings := by
  -- of the three ways an entry is read only one fits a value that cannot be coerced
  cases h with
  | taken hdefault' hresult =>
    rw [hdefault] at hdefault'
    obtain rfl := Option.some.inj hdefault'
    rw [hresult] at herror
    cases herror
  | warned hdefault' herror' =>
    rw [hdefault] at hdefault'
    obtain rfl := Option.some.inj hdefault'
    rw [herror] at herror'
    obtain rfl := Except.error.inj herror'
    exact List.mem_singleton_self _
  | passed hnone => exact absurd hdefault (hnone key default rfl)

end PageEntryRead

/-- A file without an infinity among the numbers is read to its end, and what
it cannot give falls back to the defaults. -/
theorem exists_foldlM_readInterfaceEntry
    (hfinite : ∀ entry ∈ items, FiniteEntry interfaceDefaults entry) :
    ∃ read, (items.foldlM readInterfaceEntry interfaceDefaults).outcome = .ok read ∧
      NumbersByDefault interfaceDefaults read ∧
      FallsBack items interfaceDefaults read
        (items.foldlM readInterfaceEntry interfaceDefaults).warnings := by
  have hstep : ∀ entry ∈ items, ∀ settings,
      PageEntryRead settings entry (readInterfaceEntry settings entry) :=
    fun entry hentry settings => readInterfaceEntry_spec (hfinite entry hentry) settings
  obtain ⟨read, hread⟩ := Loaded.exists_foldlM_eq_ok (b := interfaceDefaults)
    fun entry hentry settings => (hstep entry hentry settings).exists_ok
  -- the run gives settings; what holds of them is carried through it, entry by entry
  refine ⟨read, hread, ?_, ?_, ?_⟩
  · refine Loaded.foldlM_induction ?_ ?_ hread
    · intro entry hentry settings next hsettings hnext
      exact (hstep entry hentry settings).numbersByDefault hsettings hnext
    · exact fun key present hpresent hkind => ⟨present, hpresent, hkind⟩
  · intro key default hdefault hbad
    refine Loaded.foldlM_induction (p := fun settings => getNamed? key settings = some default)
      ?_ hdefault hread
    intro entry hentry settings next hsettings hnext
    refine (hstep entry hentry settings).stays hdefault ?_ hsettings hnext
    rintro value rfl
    exact hbad value hentry
  · intro key default value error hdefault hentry herror
    exact Loaded.mem_warnings_foldlM hread hentry fun settings =>
      (hstep _ hentry settings).mem_warnings hdefault herror

theorem loadInterface_entries (items : List (Datum × Datum)) (environment : Environment) :
    loadInterface (.entries items) environment
      = items.foldlM readInterfaceEntry interfaceDefaults >>=
          applyOverrides environment interfaceVariables := rfl

/-! ### Settings of questions -/

/-- A key names a list of words. -/
def NamesWords (key : String) : Prop := (({} : Vocabulary).replace? key []).isSome = true

/-- The errors that refuse a file, each for one of its entries: a value that is
no list of words, or one that is no whole number. -/
inductive Refuses (items : List (Datum × Datum)) : SettingsError → Prop
  | words {key : String} {value : Datum} : (.text key, value) ∈ items → NamesWords key →
      LoadedQuery.words? value = none → Refuses items (.notWords key)
  | threshold {key : String} {value : Datum} {error : CoercionError} :
      (.text key, value) ∈ items → IsNumber limitDefaults key →
      Datum.coerce .whole value = .error error →
        Refuses items (.threshold key value.plainText error)

theorem load_entries (items : List (Datum × Datum)) (environment : Environment) :
    LoadedQuery.load (.entries items) environment
      = items.foldlM LoadedQuery.readEntry {} >>= fun loaded =>
          applyOverrides environment limitVariables loaded.limits >>= fun limits =>
            pure { loaded with limits } := rfl

/-- Whether a key names a list of words does not depend on the words. -/
theorem isSome_replace? (v : Vocabulary) (key : String) (words : List String) :
    (v.replace? key words).isSome = (({} : Vocabulary).replace? key []).isSome := by
  simp only [Vocabulary.replace?, apply_ite Option.isSome, Option.isSome_some]

/-- What an entry of the file does to the settings of questions: words and
limits that are what they should be are taken over, other values under their
keys refuse the file, and any other key is warned of. -/
inductive QuestionEntryRead (loaded : LoadedQuery) : Datum × Datum → Loaded LoadedQuery → Prop
  | words {key : String} {value : Datum} {words : List String} :
      NamesWords key → LoadedQuery.words? value = some words →
        QuestionEntryRead loaded (.text key, value)
          (pure { loaded with vocabulary := (loaded.vocabulary.replace? key words).getD {} })
  | notWords {key : String} {value : Datum} :
      NamesWords key → LoadedQuery.words? value = none →
        QuestionEntryRead loaded (.text key, value) (.fail (.notWords key))
  | limit {key : String} {value present result : Datum} :
      getNamed? key loaded.limits = some present → Datum.coerce .whole value = .ok result →
        QuestionEntryRead loaded (.text key, value)
          (pure { loaded with limits := setNamed key result loaded.limits })
  | notWhole {key : String} {value present : Datum} {error : CoercionError} :
      getNamed? key loaded.limits = some present → Datum.coerce .whole value = .error error →
        QuestionEntryRead loaded (.text key, value)
          (.fail (.threshold key value.plainText error))
  | unknown {entry : Datum × Datum} :
      (∀ key, entry.1 = .text key → ¬ NamesWords key ∧ getNamed? key loaded.limits = none) →
        QuestionEntryRead loaded entry (.warn (.unknownKey entry.1.plainText) loaded)

/-- Every limit is a number by default. -/
def LimitsKnown (loaded : LoadedQuery) : Prop :=
  ∀ key value, getNamed? key loaded.limits = some value → IsNumber limitDefaults key

theorem limitsKnown_default : LimitsKnown {} := by
  intro key value hvalue
  exact ⟨value, hvalue, settingKind_limitDefaults _ (mem_of_getNamed? hvalue)⟩

/-- An entry without an infinity is read. -/
theorem readEntry_spec {loaded : LoadedQuery} {entry : Datum × Datum} (h : LimitsKnown loaded)
    (hfinite : FiniteEntry limitDefaults entry) :
    QuestionEntryRead loaded entry (loaded.readEntry entry) := by
  unfold LoadedQuery.readEntry
  split
  · next key value =>
    -- a key of words comes first, then a limit, and any other key is unknown
    rw [isSome_replace?]
    split
    · next hwords =>
      split
      · next hnone => exact .notWords hwords hnone
      · next words hsome => exact .words hwords hsome
    · next hwords =>
      split
      · next hlimit =>
        obtain ⟨present, hpresent⟩ := Option.isSome_iff_exists.1 hlimit
        rw [LoadedQuery.readLimit]
        split
        · next result hresult => exact .limit hpresent hresult
        · next error herror =>
          -- a limit that cannot be read is no infinity, so it does not fail by its range
          have hrange : error.isOverflow = false := by
            rw [Datum.isOverflow_of_coerce_whole herror, hfinite key (h key present hpresent) rfl]
          rw [hrange, if_neg Bool.false_ne_true]
          exact .notWhole hpresent herror
      · next hlimit =>
        refine .unknown ?_
        intro other hother
        obtain rfl := Datum.text.inj hother
        exact ⟨hwords, Option.not_isSome_iff_eq_none.1 hlimit⟩
  -- a key that is no text is under none of the names
  · next key value hkey =>
    refine .unknown ?_
    intro other hother
    exact absurd hother (hkey other)

namespace QuestionEntryRead

variable {loaded next : LoadedQuery} {entry : Datum × Datum} {result : Loaded LoadedQuery}

theorem limitsKnown (h : QuestionEntryRead loaded entry result) (hknown : LimitsKnown loaded)
    (hnext : result.outcome = .ok next) : LimitsKnown next := by
  cases h with
  | words =>
    obtain rfl := Except.ok.inj hnext
    exact hknown
  | notWords => cases hnext
  | @limit key value present limit hpresent =>
    obtain rfl := Except.ok.inj hnext
    intro other value' hvalue'
    -- an entry writes its own limit only, and only over one that was there
    by_cases hkey : other = key
    · subst hkey
      exact hknown other present hpresent
    · rw [getNamed?_setNamed_of_ne hkey] at hvalue'
      exact hknown other value' hvalue'
  | notWhole => cases hnext
  | unknown =>
    obtain rfl := Except.ok.inj hnext
    exact hknown

theorem refuses {e : SettingsError} (h : QuestionEntryRead loaded entry result)
    (hknown : LimitsKnown loaded) (hentry : entry ∈ items) (herror : result.outcome = .error e) :
    Refuses items e := by
  cases h with
  | words => cases herror
  | notWords hwords hnone =>
    obtain rfl := Except.error.inj herror
    exact .words hentry hwords hnone
  | limit => cases herror
  | @notWhole key value present error hpresent hcoerce =>
    obtain rfl := Except.error.inj herror
    exact .threshold hentry (hknown key present hpresent) hcoerce
  | unknown => cases herror

end QuestionEntryRead

/-- A file without an infinity among the limits is read to its end, or refused
for one of its entries. -/
theorem foldlM_readEntry_cases (hfinite : ∀ entry ∈ items, FiniteEntry limitDefaults entry) :
    (∃ e, (items.foldlM LoadedQuery.readEntry {}).outcome = .error e ∧ Refuses items e) ∨
      ∃ read, (items.foldlM LoadedQuery.readEntry {}).outcome = .ok read ∧ LimitsKnown read := by
  have hstep : ∀ entry ∈ items, ∀ loaded, LimitsKnown loaded →
      QuestionEntryRead loaded entry (loaded.readEntry entry) :=
    fun entry hentry _ hknown => readEntry_spec hknown (hfinite entry hentry)
  have hkept : ∀ entry ∈ items, ∀ loaded next, LimitsKnown loaded →
      (LoadedQuery.readEntry loaded entry).outcome = .ok next → LimitsKnown next :=
    fun entry hentry loaded _ hknown => (hstep entry hentry loaded hknown).limitsKnown hknown
  rcases hread : (items.foldlM LoadedQuery.readEntry {}).outcome with e | read
  · obtain ⟨entry, hentry, loaded, hknown, herror⟩ :=
      Loaded.exists_of_foldlM_eq_error hkept limitsKnown_default hread
    exact .inl ⟨e, rfl, (hstep entry hentry loaded hknown).refuses hknown hentry herror⟩
  · exact .inr ⟨read, rfl, Loaded.foldlM_induction hkept limitsKnown_default hread⟩

end TableQuery
