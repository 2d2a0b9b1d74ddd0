/-
TableQuery/Proofs/Settings/Supplied.lean

A whole number for a limit, supplied in three ways.

A limit can be given as a number in the file, as its decimal text in the file,
or as that text in the environment.  The number is taken over as it is; a text
is read as a real number on the way.  What else the file and the environment
say does not matter, as long as they say nothing about this limit
(`OpenLimit`): one more entry, or one more variable, is one more step of a run
that the other steps leave alone.

Main result: `OpenLimit.supply_routes`, for every limit and every whole number.
-/
import Mathlib.Data.List.Nodup
import TableQuery.Proofs.Settings.Numerals
import TableQuery.Proofs.Settings.Precedence
import TableQuery.Proofs.Settings.Runs

namespace TableQuery

variable {name key : String} {value : Datum} {n m : Int}
variable {environment : Environment} {loaded : LoadedQuery} {settings : SettingsTable}

/-- A setting of any kind is there. -/
theorem HasKind.mem_namesOf {kind : SettingKind} (h : HasKind key kind settings) :
    key ∈ namesOf settings := by
  obtain ⟨v, hv, -⟩ := h
  exact mem_namesOf_iff.2 ⟨v, hv⟩

/-! ### Limits that are replaced -/

/-- Loaded settings with another number for a limit. -/
def LoadedQuery.withLimit (loaded : LoadedQuery) (key : String) (n : Int) : LoadedQuery :=
  { loaded with limits := setNamed key (.integer n) loaded.limits }

@[simp] theorem LoadedQuery.vocabulary_withLimit (loaded : LoadedQuery) (key : String) (n : Int) :
    (loaded.withLimit key n).vocabulary = loaded.vocabulary := rfl

@[simp] theorem LoadedQuery.limits_withLimit (loaded : LoadedQuery) (key : String) (n : Int) :
    (loaded.withLimit key n).limits = setNamed key (.integer n) loaded.limits := rfl

theorem LoadedQuery.withLimit_withLimit (loaded : LoadedQuery) (key : String) (m n : Int) :
    (loaded.withLimit key m).withLimit key n = loaded.withLimit key n :=
  congrArg (LoadedQuery.mk loaded.vocabulary) (setNamed_setNamed_self key _ _ loaded.limits)

/-- The settings tell which number was put in. -/
theorem LoadedQuery.withLimit_inj (h : loaded.withLimit key n = loaded.withLimit key m) : n = m := by
  have hvalue := congrArg (fun loaded : LoadedQuery => getNamed? key loaded.limits) h
  simpa only [limits_withLimit, getNamed?_setNamed_self, Option.some.injEq, Datum.integer.injEq]
    using hvalue

/-! ### The file -/

/-- An entry under the key of a limit is read as that limit. -/
theorem readEntry_limit (hkey : key ∈ limitKeys) (hkind : HasKind key .whole loaded.limits)
    (value : Datum) : loaded.readEntry (.text key, value) = loaded.readLimit key value := by
  have hwords : ¬ (loaded.vocabulary.replace? key []).isSome = true := by
    rw [isSome_replace?]
    exact fun h => not_mem_wordKeys hkey (namesWords_iff.1 h)
  have hlimit : (getNamed? key loaded.limits).isSome = true := by
    rw [Option.isSome_iff_exists]
    exact mem_namesOf_iff.1 hkind.mem_namesOf
  rw [LoadedQuery.readEntry, if_neg hwords, if_pos hlimit]

/-- Reading an entry under another key and replacing a limit can change places. -/
theorem readEntry_withLimit (h : key ∈ namesOf loaded.limits) {entry : Datum × Datum}
    (hentry : entry.1 ≠ .text key) (n : Int) :
    (loaded.withLimit key n).readEntry entry = (·.withLimit key n) <$> loaded.readEntry entry := by
  unfold LoadedQuery.readEntry
  split
  · next other value =>
    have hother : other ≠ key := fun heq => hentry (congrArg Datum.text heq)
    simp only [LoadedQuery.vocabulary_withLimit, LoadedQuery.limits_withLimit,
      isSome_getNamed?_setNamed h]
    split
    -- words leave the limits alone
    · split
      · rfl
      · rfl
    -- another limit is read, or the key is unknown
    · split
      · rw [LoadedQuery.readLimit, LoadedQuery.readLimit]
        split
        · next limit _ =>
          rw [map_pure, LoadedQuery.limits_withLimit, setNamed_comm hother h]
          rfl
        · rfl
      · rfl
  · rfl

/-! ### The environment -/

theorem overrideOne_setNamed (h : key ∈ namesOf settings) {other : String} (hother : other ≠ key)
    (name : String) (value : Datum) :
    overrideOne environment (setNamed key value settings) name other
      = setNamed key value <$> overrideOne environment settings name other := by
  rw [overrideOne, overrideOne, getNamed?_setNamed_of_ne hother]
  split
  · split
    · rw [setNamed_comm hother h, map_pure]
    · split
      · rfl
      · rfl
  · rfl

theorem hasKind_overrideOne {mapping : List (String × String)} : ∀ entry ∈ mapping,
    ∀ settings next, HasKind key .whole settings →
      (overrideOne environment settings entry.1 entry.2).outcome = .ok next →
        HasKind key .whole next :=
  fun _ _ _ _ hkind hnext => hkind.overrideOne (.inl rfl) hnext

/-- Overriding the other limits and replacing one can change places, if the
variable of that one is not set. -/
theorem applyOverrides_setNamed {mapping : List (String × String)}
    (hunset : ∀ entry ∈ mapping, entry.2 = key → getNamed? entry.1 environment = none)
    (hkind : HasKind key .whole settings) (value : Datum) :
    applyOverrides environment mapping (setNamed key value settings)
      = setNamed key value <$> applyOverrides environment mapping settings := by
  refine Loaded.foldlM_image (p := HasKind key .whole) ?_ ?_ hkind
  · exact hasKind_overrideOne
  · rintro ⟨name, other⟩ hentry settings hkind
    by_cases hother : other = key
    · have hnone : getNamed? name environment = none := hunset _ hentry hother
      simp only [overrideOne, hnone]
      rfl
    · exact overrideOne_setNamed hkind.mem_namesOf hother name value

/-- Only the variables of the mapping matter. -/
theorem applyOverrides_congr {environment' : Environment} {mapping : List (String × String)}
    (h : ∀ entry ∈ mapping, getNamed? entry.1 environment' = getNamed? entry.1 environment)
    (settings : SettingsTable) :
    applyOverrides environment' mapping settings = applyOverrides environment mapping settings := by
  induction mapping generalizing settings with
  | nil => rfl
  | cons entry rest ih =>
    obtain ⟨hentry, hrest⟩ := List.forall_mem_cons.1 h
    have hstep : overrideOne environment' settings entry.1 entry.2
        = overrideOne environment settings entry.1 entry.2 := by
      rw [overrideOne, overrideOne, hentry]
    rw [applyOverrides, applyOverrides, List.foldlM_cons, List.foldlM_cons]
    show overrideOne environment' settings entry.1 entry.2 >>= _ = _
    rw [hstep]
    exact Loaded.bind_congr_of_ok fun next _ => ih hrest next

/-- The variables of limits and their keys occur once each. -/
theorem exists_limitVariables_eq (h : (name, key) ∈ limitVariables) :
    ∃ others others', limitVariables = others ++ (name, key) :: others' ∧
      ∀ entry ∈ others ++ others', entry.1 ≠ name ∧ entry.2 ≠ key := by
  obtain ⟨others, others', heq⟩ := List.append_of_mem h
  have hnames : (limitVariables.map (·.1)).Nodup := by decide
  have hkeys : (limitVariables.map (·.2)).Nodup := by decide
  rw [heq, List.map_append, List.map_cons, List.nodup_middle, List.nodup_cons,
    ← List.map_append] at hnames hkeys
  exact ⟨others, others', heq, fun entry hentry =>
    ⟨fun hname => hnames.1 (List.mem_map.2 ⟨entry, hentry, hname⟩),
      fun hkey => hkeys.1 (List.mem_map.2 ⟨entry, hentry, hkey⟩)⟩⟩

/-- The other variables do what all do where this one is not set, whether or
not it is set for them. -/
theorem applyOverrides_others {others others' : List (String × String)}
    (heq : limitVariables = others ++ (name, key) :: others')
    (hothers : ∀ entry ∈ others ++ others', entry.1 ≠ name ∧ entry.2 ≠ key)
    (hunset : getNamed? name environment = none) (text : String) (settings : SettingsTable) :
    applyOverrides ((name, text) :: environment) (others ++ others') settings
      = applyOverrides environment limitVariables settings := by
  have hsame : ∀ entry ∈ others ++ others',
      getNamed? entry.1 ((name, text) :: environment) = getNamed? entry.1 environment :=
    fun entry hentry => if_neg (hothers entry hentry).1.symm
  -- where it is not set, the step of this variable does nothing
  rw [applyOverrides_congr hsame, heq, ← id_map (applyOverrides environment _ settings)]
  refine (Loaded.foldlM_insert (p := fun _ => True) (g := id) (fun _ _ _ _ _ _ => trivial)
    ?_ ?_ trivial).symm
  · intro settings _
    simp only [overrideOne, hunset]
    rfl
  · exact fun entry _ settings _ => (id_map _).symm

section Variable

variable {text : String}

/-- One more variable is one more step, which the other variables leave alone. -/
theorem applyOverrides_cons (hmem : (name, key) ∈ limitVariables)
    (hunset : getNamed? name environment = none)
    (htext : Datum.coerce .whole (.text text) = .ok value) (hkind : HasKind key .whole settings) :
    applyOverrides ((name, text) :: environment) limitVariables settings
      = setNamed key value <$> applyOverrides environment limitVariables settings := by
  obtain ⟨others, others', heq, hothers⟩ := exists_limitVariables_eq hmem
  rw [← applyOverrides_others heq hothers hunset text, heq]
  refine Loaded.foldlM_insert (p := HasKind key .whole) hasKind_overrideOne ?_ ?_ hkind
  · rintro settings ⟨present, hpresent, hwhole⟩
    have hset : getNamed? name ((name, text) :: environment) = some text := if_pos rfl
    simp only [overrideOne, hset, hpresent, hwhole, htext]
  · rintro ⟨name', other⟩ hentry settings hkind
    exact overrideOne_setNamed hkind.mem_namesOf
      (hothers _ (List.mem_append_right _ hentry)).2 name' value

/-- A variable that fails by its range ends the overriding. -/
theorem applyOverrides_cons_error {error : CoercionError} (hmem : (name, key) ∈ limitVariables)
    (hunset : getNamed? name environment = none)
    (htext : Datum.coerce .whole (.text text) = .error error) (hrange : error.isOverflow = true)
    (hkind : HasKind key .whole settings) {after : SettingsTable}
    (hafter : (applyOverrides environment limitVariables settings).outcome = .ok after) :
    (applyOverrides ((name, text) :: environment) limitVariables settings).outcome
      = .error (.overflow error) := by
  obtain ⟨others, others', heq, hothers⟩ := exists_limitVariables_eq hmem
  rw [← applyOverrides_others heq hothers hunset text] at hafter
  rw [heq]
  refine Loaded.foldlM_insert_error (p := HasKind key .whole) hasKind_overrideOne ?_ hkind hafter
  rintro settings ⟨present, hpresent, hwhole⟩
  have hset : getNamed? name ((name, text) :: environment) = some text := if_pos rfl
  simp only [overrideOne, hset, hpresent, hwhole, htext, hrange, if_true]
  rfl

end Variable

/-! ### A limit that is left open -/

/-- The last step of loading: the environment overrides what has been read. -/
def LoadedQuery.overridden (environment : Environment) (read : LoadedQuery) : Loaded LoadedQuery :=
  applyOverrides environment limitVariables read.limits >>= fun limits => pure { read with limits }

/-- A limit that a file and an environment say nothing about.  The file is in
two parts, between which an entry can be put. -/
structure OpenLimit where
  name : String
  key : String
  before : List (Datum × Datum)
  after : List (Datum × Datum)
  environment : Environment
  known : (name, key) ∈ limitVariables
  lacks : Lacks (before ++ after) key
  unset : getNamed? name environment = none

namespace OpenLimit

variable (l : OpenLimit) {read : LoadedQuery}

/-- The entries of the file, with a value for the limit if it gives one. -/
def entries : Option Datum → List (Datum × Datum)
  | none => l.before ++ l.after
  | some value => l.before ++ (.text l.key, value) :: l.after

/-- The environment, with a text for the limit if it gives one. -/
def texts : Option String → Environment
  | none => l.environment
  | some text => (l.name, text) :: l.environment

/-- Loads the settings of questions, with a value of the file and a text of the
environment for the limit. -/
def load (value? : Option Datum) (text? : Option String) : Loaded LoadedQuery :=
  LoadedQuery.load (.entries (l.entries value?)) (l.texts text?)

/-- What is loaded while the limit is left open. -/
def rest : Loaded LoadedQuery := l.load none none

theorem load_eq (value? : Option Datum) (text? : Option String) :
    l.load value? text? = (l.entries value?).foldlM LoadedQuery.readEntry {} >>=
      LoadedQuery.overridden (l.texts text?) := rfl

theorem key_mem : l.key ∈ limitKeys := by
  have hall : ∀ entry ∈ limitVariables, entry.2 ∈ limitKeys := by decide
  exact hall _ l.known

/-! ### Its file -/

theorem hasKind_default : HasKind l.key .whole ({} : LoadedQuery).limits := by
  obtain ⟨default, hdefault⟩ := mem_namesOf_iff.1 l.key_mem
  exact ⟨default, hdefault, settingKind_limitDefaults _ (mem_of_getNamed? hdefault)⟩

theorem entry_ne {entry : Datum × Datum} (hentry : entry ∈ l.before ++ l.after) :
    entry.1 ≠ .text l.key := by
  obtain ⟨key, value⟩ := entry
  rintro rfl
  exact l.lacks value hentry

/-- No other entry changes the kind of the limit. -/
theorem hasKind_readEntry : ∀ entry ∈ l.before ++ l.after, ∀ loaded next : LoadedQuery,
    HasKind l.key .whole loaded.limits → (loaded.readEntry entry).outcome = .ok next →
      HasKind l.key .whole next.limits := by
  intro entry hentry loaded next hkind hnext
  refine hkind.readEntry ?_ hnext
  rintro rfl
  exact l.entry_ne hentry rfl

theorem hasKind_read (h : ((l.entries none).foldlM LoadedQuery.readEntry {}).outcome = .ok read) :
    HasKind l.key .whole read.limits :=
  Loaded.foldlM_induction (p := fun loaded => HasKind l.key .whole loaded.limits)
    l.hasKind_readEntry l.hasKind_default h

/-- A value that has a whole part is read as that limit. -/
theorem read_entries (h : Datum.coerce .whole value = .ok (.integer n)) :
    (l.entries (some value)).foldlM LoadedQuery.readEntry {}
      = (·.withLimit l.key n) <$> (l.entries none).foldlM LoadedQuery.readEntry {} := by
  refine Loaded.foldlM_insert (p := fun loaded => HasKind l.key .whole loaded.limits)
    l.hasKind_readEntry ?_ ?_ l.hasKind_default
  · intro loaded hkind
    rw [readEntry_limit l.key_mem hkind, LoadedQuery.readLimit, h]
    rfl
  · exact fun entry hentry loaded hkind => readEntry_withLimit hkind.mem_namesOf
      (l.entry_ne (List.mem_append_right _ hentry)) n

/-! ### Its environment -/

theorem overridden_withLimit (hkind : HasKind l.key .whole read.limits) (n : Int) :
    (read.withLimit l.key n).overridden (l.texts none)
      = (·.withLimit l.key n) <$> read.overridden (l.texts none) := by
  have hunset : ∀ entry ∈ limitVariables, entry.2 = l.key →
      getNamed? entry.1 (l.texts none) = none := by
    intro entry hentry hkey
    obtain rfl := limitVariables_inj entry hentry _ l.known hkey
    exact l.unset
  rw [LoadedQuery.overridden, LoadedQuery.overridden, LoadedQuery.limits_withLimit,
    applyOverrides_setNamed hunset hkind, bind_map_left, map_bind]
  rfl

theorem overridden_texts {text : String}
    (h : Datum.coerce .whole (.text text) = .ok (.integer n))
    (hkind : HasKind l.key .whole read.limits) :
    read.overridden (l.texts (some text))
      = (·.withLimit l.key n) <$> read.overridden (l.texts none) := by
  have hover : applyOverrides (l.texts (some text)) limitVariables read.limits
      = setNamed l.key (.integer n) <$> applyOverrides (l.texts none) limitVariables read.limits :=
    applyOverrides_cons l.known l.unset h hkind
  rw [LoadedQuery.overridden, LoadedQuery.overridden, hover, bind_map_left, map_bind]
  rfl

/-! ### Loading -/

/-- **A number of the file is taken over**, and nothing else changes. -/
theorem load_entry (h : Datum.coerce .whole value = .ok (.integer n)) :
    l.load (some value) none = (·.withLimit l.key n) <$> l.rest := by
  rw [rest, load_eq, load_eq, l.read_entries h, bind_map_left, map_bind]
  exact Loaded.bind_congr_of_ok fun read hread => l.overridden_withLimit (l.hasKind_read hread) n

/-- **A number of the environment is taken over**, whatever number the file
gives, and nothing else changes. -/
theorem load_variable {text : String} (h : Datum.coerce .whole (.text text) = .ok (.integer n))
    (given : Option Int) :
    l.load (given.map .integer) (some text) = (·.withLimit l.key n) <$> l.rest := by
  rw [rest, load_eq, load_eq, map_bind]
  cases given with
  | none =>
    exact Loaded.bind_congr_of_ok fun read hread =>
      l.overridden_texts h (l.hasKind_read hread)
  | some m =>
    -- the number of the file is there first, and is replaced like any other
    rw [Option.map_some, l.read_entries rfl, bind_map_left]
    refine Loaded.bind_congr_of_ok fun read hread => ?_
    rw [l.overridden_texts h (.setNamed_self rfl),
      l.overridden_withLimit (l.hasKind_read hread), ← comp_map]
    exact congrArg (· <$> _) (funext fun loaded => loaded.withLimit_withLimit l.key m n)

/-- A value of the file that fails by its range is an error, if nothing else
is. -/
theorem load_entry_error {error : CoercionError} (h : Datum.coerce .whole value = .error error)
    (hrange : error.isOverflow = true) (hrest : l.rest.outcome = .ok loaded) :
    (l.load (some value) none).outcome = .error (.overflow error) := by
  rw [rest, load_eq] at hrest
  obtain ⟨read, hread, -⟩ := Loaded.outcome_bind_eq_ok hrest
  rw [load_eq]
  refine Loaded.outcome_bind_of_error (Loaded.foldlM_insert_error
    (p := fun loaded => HasKind l.key .whole loaded.limits) l.hasKind_readEntry ?_
    l.hasKind_default hread)
  intro loaded hkind
  rw [readEntry_limit l.key_mem hkind, LoadedQuery.readLimit, h]
  exact congrArg Except.error (if_pos hrange)

theorem overridden_texts_error {text : String} {error : CoercionError}
    (h : Datum.coerce .whole (.text text) = .error error) (hrange : error.isOverflow = true)
    (hkind : HasKind l.key .whole read.limits)
    (hread : (read.overridden (l.texts none)).outcome = .ok loaded) :
    (read.overridden (l.texts (some text))).outcome = .error (.overflow error) := by
  obtain ⟨after, hafter, -⟩ := Loaded.outcome_bind_eq_ok hread
  exact Loaded.outcome_bind_of_error
    (applyOverrides_cons_error l.known l.unset h hrange hkind hafter)

/-- A text of the environment that fails by its range is an error, if nothing
else is. -/
theorem load_variable_error {text : String} {error : CoercionError}
    (h : Datum.coerce .whole (.text text) = .error error) (hrange : error.isOverflow = true)
    (given : Option Int) (hrest : l.rest.outcome = .ok loaded) :
    (l.load (given.map .integer) (some text)).outcome = .error (.overflow error) := by
  rw [rest, load_eq] at hrest
  obtain ⟨read, hread, hover⟩ := Loaded.outcome_bind_eq_ok hrest
  cases given with
  | none =>
    rw [Option.map_none, load_eq, Loaded.bind_of_ok hread]
    exact l.overridden_texts_error h hrange (l.hasKind_read hread) hover
  | some m =>
    -- the other variables do not mind the number of the file
    have hgiven : ((read.withLimit l.key m).overridden (l.texts none)).outcome
        = .ok (loaded.withLimit l.key m) := by
      rw [l.overridden_withLimit (l.hasKind_read hread), Loaded.outcome_map, hover]
      rfl
    rw [Option.map_some, load_eq, l.read_entries rfl, bind_map_left, Loaded.bind_of_ok hread]
    exact l.overridden_texts_error h hrange (.setNamed_self rfl) hgiven

end OpenLimit

/-! ### Numbers and their texts -/

/-- The ways in which a whole number is supplied for a limit. -/
inductive Route where
  /-- As a number in the file. -/
  | fileNumber
  /-- As its decimal text in the file. -/
  | fileText
  /-- As its decimal text in the environment, over a number that the file may
  give. -/
  | environment (given : Option Int)
  deriving DecidableEq

namespace OpenLimit

variable (l : OpenLimit) {route : Route}

/-- Loads the settings of questions with a whole number for the limit. -/
def supply (n : Int) : Route → Loaded LoadedQuery
  | .fileNumber => l.load (some (.integer n)) none
  | .fileText => l.load (some (.text (integerText n))) none
  | .environment given => l.load (given.map .integer) (some (integerText n))

theorem supply_number (n : Int) : l.supply n .fileNumber = (·.withLimit l.key n) <$> l.rest :=
  l.load_entry rfl

/-- A text supplies the nearest number of 53 bits, in either place. -/
theorem supply_text (h : n.natAbs < integerBound) (hroute : route ≠ .fileNumber) :
    l.supply n route = (·.withLimit l.key (roundWhole n)) <$> l.rest := by
  cases route with
  | fileNumber => exact absurd rfl hroute
  | fileText => exact l.load_entry (Datum.coerce_integerText h)
  | environment given => exact l.load_variable (Datum.coerce_integerText h) given

/-- A text past the largest number is an error, in either place. -/
theorem supply_text_of_le (h : integerBound ≤ n.natAbs) (hroute : route ≠ .fileNumber)
    (hrest : l.rest.outcome = .ok loaded) :
    (l.supply n route).outcome = .error (.overflow .infinite) := by
  cases route with
  | fileNumber => exact absurd rfl hroute
  | fileText => exact l.load_entry_error (Datum.coerce_integerText_of_le h) rfl hrest
  | environment given =>
    exact l.load_variable_error (Datum.coerce_integerText_of_le h) rfl given hrest

theorem outcome_map_withLimit (hrest : l.rest.outcome = .ok loaded) (n : Int) :
    ((·.withLimit l.key n) <$> l.rest).outcome = .ok (loaded.withLimit l.key n) := by
  rw [Loaded.outcome_map, hrest]
  rfl

/-- A binary64 number arrives as itself in every way. -/
theorem supply_eq (h : Binary64.Representable (n.natAbs * Binary64.unitsPerOne)) (route : Route) :
    l.supply n route = (·.withLimit l.key n) <$> l.rest := by
  obtain ⟨hrange, hsame⟩ := roundWhole_eq_iff.2 h
  by_cases hroute : route = .fileNumber
  · rw [hroute, l.supply_number]
  · rw [l.supply_text hrange hroute, hsame]

/-- What arrives as itself in every way is a binary64 number. -/
theorem representable_of_supply (hrest : l.rest.outcome = .ok loaded)
    (h : ∀ route, (l.supply n route).outcome = .ok (loaded.withLimit l.key n)) :
    Binary64.Representable (n.natAbs * Binary64.unitsPerOne) := by
  have htext := h .fileText
  rw [← roundWhole_eq_iff]
  by_cases hrange : n.natAbs < integerBound
  · rw [l.supply_text hrange (by decide), l.outcome_map_withLimit hrest] at htext
    exact ⟨hrange, LoadedQuery.withLimit_inj (Except.ok.inj htext)⟩
  · rw [l.supply_text_of_le (Nat.not_lt.1 hrange) (by decide) hrest] at htext
    cases htext

/-- **A whole number supplied for a limit.**  As a number it is taken over as it
is.  As a text, in the file or in the environment alike, it is taken over as the
nearest whole number of 53 bits, or it is an error from `integerBound` on.
Nothing else changes.  So all ways agree, and give the number itself, exactly
for the whole numbers that are binary64 numbers, as all up to 2^53 are. -/
theorem supply_routes (n : Int) :
    l.supply n .fileNumber = (·.withLimit l.key n) <$> l.rest ∧
      (n.natAbs < integerBound → ∃ m, NearestWhole n m ∧
        ∀ route ≠ .fileNumber, l.supply n route = (·.withLimit l.key m) <$> l.rest) ∧
      (n.natAbs ≤ 2 ^ 53 → ∀ route, l.supply n route = (·.withLimit l.key n) <$> l.rest) ∧
      ∀ loaded, l.rest.outcome = .ok loaded →
        (integerBound ≤ n.natAbs → ∀ route ≠ .fileNumber,
          (l.supply n route).outcome = .error (.overflow .infinite)) ∧
        ((∀ route, (l.supply n route).outcome = .ok (loaded.withLimit l.key n)) ↔
          Binary64.Representable (n.natAbs * Binary64.unitsPerOne)) := by
  refine ⟨l.supply_number n, fun hrange => ?_, fun hsmall => ?_, fun loaded hrest => ⟨?_, ?_, ?_⟩⟩
  · exact ⟨roundWhole n, nearestWhole_roundWhole n, fun route hroute => l.supply_text hrange hroute⟩
  · exact l.supply_eq (Binary64.representable_whole hsmall)
  · exact fun hrange route hroute => l.supply_text_of_le hrange hroute hrest
  · exact l.representable_of_supply hrest
  · intro hexact route
    rw [l.supply_eq hexact, l.outcome_map_withLimit hrest]

end OpenLimit

/-- A limit that is left open by a file with other entries around the place for
it, and by an environment with a text that cannot be read. -/
def crowdedLimit : OpenLimit where
  name := "DISTRIBUTION_TOP_N"
  key := "distribution_top_n"
  before := [(.text "summary_row_threshold", .text "25.9"), (.text "colour", .missing)]
  after := [(.text "sort_keywords", .list [.text "Rank"])]
  environment := [("CATEGORICAL_MAX_DISTINCT", "many")]
  known := by decide
  lacks := by simp [Lacks]
  unset := by decide

theorem supply_routes_crowded :
    ∃ loaded, crowdedLimit.rest.outcome = .ok loaded ∧
      (∀ route, crowdedLimit.supply (-12) route
        = (·.withLimit "distribution_top_n" (-12)) <$> crowdedLimit.rest) ∧
      (∃ m, NearestWhole (2 ^ 53 + 1) m ∧ ∀ route ≠ .fileNumber,
        crowdedLimit.supply (2 ^ 53 + 1) route
          = (·.withLimit "distribution_top_n" m) <$> crowdedLimit.rest) ∧
      ∀ route ≠ .fileNumber, (crowdedLimit.supply integerBound route).outcome
        = .error (.overflow .infinite) := by
  obtain ⟨loaded, hrest⟩ := Loaded.exists_outcome_eq_ok
    (show crowdedLimit.rest.outcome.isOk = true by decide +kernel)
  obtain ⟨-, -, hsmall, -⟩ := crowdedLimit.supply_routes (-12)
  obtain ⟨-, hround, -, -⟩ := crowdedLimit.supply_routes (2 ^ 53 + 1)
  obtain ⟨-, -, -, hloaded⟩ := crowdedLimit.supply_routes integerBound
  refine ⟨loaded, hrest, hsmall (by decide), hround (by decide +kernel), ?_⟩
  exact (hloaded loaded hrest).1 (Int.natAbs_natCast integerBound).ge

/-- The settings that are loaded, if they are and can be used. -/
def LoadedQuery.used? (loaded : Loaded LoadedQuery) : Option QuerySettings :=
  loaded.outcome.toOption.bind LoadedQuery.settings?

/-- The text of 2^53 + 1 supplies 2^53. -/
theorem lastBit_lost :
    integerText (2 ^ 53 + 1) = "9007199254740993" ∧
      LoadedQuery.used? (LoadedQuery.load
          (.entries [(.text "summary_row_threshold", .integer (2 ^ 53 + 1))]) [])
        = some { limits := { summaryRows := 2 ^ 53 + 1 } } ∧
      LoadedQuery.used? (LoadedQuery.load
          (.entries [(.text "summary_row_threshold", .text "9007199254740993")]) [])
        = some { limits := { summaryRows := 2 ^ 53 } } ∧
      LoadedQuery.used? (LoadedQuery.load (.entries [])
          [("SUMMARY_ROW_THRESHOLD", "9007199254740993")])
        = some { limits := { summaryRows := 2 ^ 53 } } := by
  decide +kernel

end TableQuery
