/-
TableQuery/Proofs/Settings/Infinity.lean

Which values fail by their range.

A value that cannot be turned into the kind of a setting fails in one of two
ways.  Most failures are those of a value that is no number, and every loader
catches them.  An infinity, or a text that is read as one, is a number without
a whole part, and that failure no loader catches
(`Datum.isOverflow_of_toWhole`).  So a file and an environment are said to be
free of it where a setting is a whole number, and only there (`NoInfinity`):
no text is turned into a text by its value, and no setting is a real number.
-/
import TableQuery.Proofs.Settings.Kinds

namespace TableQuery

/-! ### Failures of range -/

/-- Whether a number is an infinity. -/
def Binary64.isInfinite : Binary64 → Bool
  | .infinite _ => true
  | _ => false

namespace Datum

/-- Whether a value is an infinity, or a text that is read as one. -/
def isInfinite : Datum → Bool
  | .real x | .stored (.real x) => x.isInfinite
  | .scaled (.infinite _) => true
  | .text s => (readReal? s).any Binary64.isInfinite
  | _ => false

theorem isOverflow_of_wholePart {x : Binary64} {error : CoercionError}
    (h : wholePart x = .error error) : error.isOverflow = x.isInfinite := by
  cases x with
  | finite negative units hunits => cases h
  | infinite negative =>
    obtain rfl := Except.error.inj h
    rfl
  | nan =>
    obtain rfl := Except.error.inj h
    rfl

/-- Octets that are no whole number fail by their form or by their length. -/
theorem isOverflow_of_wholeOfOctets {octets : List Nat} {error : CoercionError}
    (h : wholeOfOctets octets = .error error) : error.isOverflow = false := by
  rw [wholeOfOctets] at h
  -- octets past ASCII, too many digits, no whole number: none of it is an infinity
  split at h
  · obtain rfl := Except.error.inj h
    rfl
  · split at h
    · obtain rfl := Except.error.inj h
      rfl
    · split at h
      · cases h
      · obtain rfl := Except.error.inj h
        rfl

/-- Among the values without a whole part, the infinities are those that fail
by their range. -/
theorem isOverflow_of_toWhole {d : Datum} {error : CoercionError} (h : d.toWhole = .error error) :
    error.isOverflow = d.isInfinite := by
  cases d with
  | integer n => cases h
  | boolean b => cases h
  | ratio n d => cases h
  | real x => exact isOverflow_of_wholePart h
  | stored v =>
    cases v with
    | boolean b => cases h
    | integer n => cases h
    | real x => exact isOverflow_of_wholePart h
  | scaled n =>
    cases n with
    | finite n => cases h
    | infinite negative =>
      obtain rfl := Except.error.inj h
      rfl
    | notNumber negative signaling payload =>
      obtain rfl := Except.error.inj h
      rfl
  | text s =>
    change (numberOfText s).bind wholePart = .error error at h
    rw [isInfinite]
    rcases hread : readReal? s with - | x
    · rw [numberOfText, hread] at h
      obtain rfl := Except.error.inj h
      rfl
    · rw [numberOfText, hread] at h
      exact isOverflow_of_wholePart h
  | octets o => exact isOverflow_of_wholeOfOctets h
  -- no other value has a whole part, and that is a failure of its kind
  | _ =>
    obtain rfl := Except.error.inj h
    rfl

theorem coerce_whole_of_ne {value : Datum} (h : value ≠ .missing) :
    coerce .whole value = .integer <$> value.toWhole := by
  cases value with
  | missing => exact absurd rfl h
  | _ => rfl

/-- What cannot be turned into a whole number fails by its range only if it is
an infinity. -/
theorem isOverflow_of_coerce_whole {value : Datum} {error : CoercionError}
    (h : coerce .whole value = .error error) : error.isOverflow = value.isInfinite := by
  have hvalue : value ≠ .missing := by
    rintro rfl
    cases h
  rw [coerce_whole_of_ne hvalue] at h
  rcases hn : value.toWhole with e | n
  · rw [hn] at h
    obtain rfl := Except.error.inj h
    exact isOverflow_of_toWhole hn
  · rw [hn] at h
    cases h

/-- Every value can be turned into text, and is no number afterwards. -/
theorem exists_coerce_text (value : Datum) :
    ∃ result, coerce .text value = .ok result ∧ result.settingKind ≠ .whole := by
  cases value with
  | missing => exact ⟨.missing, rfl, SettingKind.noConfusion⟩
  | _ => exact ⟨_, rfl, SettingKind.noConfusion⟩

/-- A text that cannot be turned into a kind fails by its range only if it
should be a whole number and is read as an infinity. -/
theorem isOverflow_of_coerce_text {kind : SettingKind} {text : String} {error : CoercionError}
    (h : coerce kind (.text text) = .error error)
    (hfinite : kind = .whole → (Datum.text text).isInfinite = false) :
    error.isOverflow = false := by
  -- only a whole number is cut from a double, so only there an infinity overflows
  cases kind with
  | whole => rw [isOverflow_of_coerce_whole h, hfinite rfl]
  | real =>
    change Datum.real <$> numberOfText text = .error error at h
    rw [numberOfText] at h
    rcases hread : readReal? text with - | x
    · rw [hread] at h
      obtain rfl := Except.error.inj h
      rfl
    · rw [hread] at h
      cases h
  | flag => cases h
  | text => cases h
  | other => cases h

end Datum

/-! ### Which settings are numbers -/

/-- A setting is a whole number by default. -/
def IsNumber (defaults : SettingsTable) (key : String) : Prop :=
  ∃ default, getNamed? key defaults = some default ∧ default.settingKind = .whole

/-- An entry of the file gives no infinity for a setting that is a number. -/
def FiniteEntry (defaults : SettingsTable) (entry : Datum × Datum) : Prop :=
  ∀ key, IsNumber defaults key → entry.1 = .text key → entry.2.isInfinite = false

/-- No number of a setting is an infinity, neither one in the file nor one that
a variable gives. -/
structure NoInfinity (defaults : SettingsTable) (mapping : List (String × String))
    (items : List (Datum × Datum)) (environment : Environment) : Prop where
  file : ∀ entry ∈ items, FiniteEntry defaults entry
  environment : ∀ name key text, (name, key) ∈ mapping → IsNumber defaults key →
    getNamed? name environment = some text → (Datum.text text).isInfinite = false

/-- Only settings that are whole numbers by default are whole numbers. -/
def NumbersByDefault (defaults settings : SettingsTable) : Prop :=
  ∀ key present, getNamed? key settings = some present → present.settingKind = .whole →
    IsNumber defaults key

end TableQuery
