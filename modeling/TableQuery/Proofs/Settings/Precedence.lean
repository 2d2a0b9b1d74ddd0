/-
TableQuery/Proofs/Settings/Precedence.lean

Where the settings of questions come from.

A limit has three sources.  The variable wins if it is set and read as a number,
then the file if it has the key, then the default, and a text that is no number
is as good as none (`LimitFrom`).  A list of words has the last two
(`WordsFrom`).  Each source is seen through one value of the state, the one
under the key in question: a step of the loader sets that value, or leaves it
as it was, and so does a whole run (`CameFrom`).  That one fact serves the
entries of the file and the variables of the environment alike.

The number of a text is the binary64 number that it is read as, so a text out
of range counts as infinite here, and the condition on the environment excludes
it.

Main result: `load_precedence`, for every file with usable values
(`Usable`).  Since the sources determine the settings (`Precedence.unique`),
neither other keys nor the order of the keys matter.
-/
import TableQuery.Proofs.Number.Rounding
import TableQuery.Proofs.Settings.Containment

namespace TableQuery

/-! ### Sources -/

/-- A whole number is a finite real number cut toward zero: its size is the
whole part of the size, and it is not on the other side of zero. -/
structure Truncates (negative : Bool) (units : Nat) (n : Int) : Prop where
  le : n.natAbs * Binary64.unitsPerOne ≤ units
  lt : units < (n.natAbs + 1) * Binary64.unitsPerOne
  sign : if negative then n ≤ 0 else 0 ≤ n

/-- A variable is set to a text that is read as a number, and this is its whole
part. -/
def GivesWhole (environment : Environment) (name : String) (n : Int) : Prop :=
  ∃ text negative units h, getNamed? name environment = some text ∧
    readReal? text = some (.finite negative units h) ∧ Truncates negative units n

/-- A file has no entry under this key. -/
def Lacks (items : List (Datum × Datum)) (key : String) : Prop :=
  ∀ value, (Datum.text key, value) ∉ items

/-- Where a limit comes from: the variable, else the file, else the default. -/
inductive LimitFrom (items : List (Datum × Datum)) (environment : Environment)
    (name key : String) (default : Int) : Int → Prop
  | environment {n : Int} : GivesWhole environment name n →
      LimitFrom items environment name key default n
  | file {value : Datum} {n : Int} : (∀ m, ¬ GivesWhole environment name m) →
      (.text key, value) ∈ items → value.toWhole = .ok n →
        LimitFrom items environment name key default n
  | default : (∀ m, ¬ GivesWhole environment name m) → Lacks items key →
      LimitFrom items environment name key default default

/-- Where a list of words comes from: the file, in lower case and without the
texts of white space only, else the default. -/
inductive WordsFrom (items : List (Datum × Datum)) (key : String) (default : List String) :
    List String → Prop
  | file {texts : List String} : (.text key, .list (texts.map .text)) ∈ items →
      WordsFrom items key default
        ((texts.filter fun s => !Text.allBlank s.toList).map Text.lowercase)
  | default : Lacks items key → WordsFrom items key default default

/-- Every setting of questions comes from the first of its sources. -/
structure Precedence (items : List (Datum × Datum)) (environment : Environment)
    (used : QuerySettings) : Prop where
  summaryRows : LimitFrom items environment "SUMMARY_ROW_THRESHOLD" "summary_row_threshold"
    ({} : Limits).summaryRows used.limits.summaryRows
  distinctTexts : LimitFrom items environment "CATEGORICAL_MAX_DISTINCT" "categorical_max_distinct"
    ({} : Limits).distinctTexts used.limits.distinctTexts
  listedTexts : LimitFrom items environment "DISTRIBUTION_TOP_N" "distribution_top_n"
    ({} : Limits).listedTexts used.limits.listedTexts
  filterKeywords : WordsFrom items "filter_keywords"
    ({} : Vocabulary).filterKeywords used.vocabulary.filterKeywords
  sortKeywords : WordsFrom items "sort_keywords"
    ({} : Vocabulary).sortKeywords used.vocabulary.sortKeywords
  summarizeKeywords : WordsFrom items "summarize_keywords"
    ({} : Vocabulary).summarizeKeywords used.vocabulary.summarizeKeywords
  filterValues : WordsFrom items "filter_values"
    ({} : Vocabulary).filterValues used.vocabulary.filterValues
  descendingKeywords : WordsFrom items "descending_keywords"
    ({} : Vocabulary).descendingKeywords used.vocabulary.descendingKeywords

/-! ### Files with usable values -/

/-- The lists of words by key. -/
def Vocabulary.table (v : Vocabulary) : List (String × List String) :=
  [("filter_keywords", v.filterKeywords), ("sort_keywords", v.sortKeywords),
   ("summarize_keywords", v.summarizeKeywords), ("filter_values", v.filterValues),
   ("descending_keywords", v.descendingKeywords)]

/-- The keys of lists of words. -/
def wordKeys : List String := namesOf ({} : Vocabulary).table

/-- The keys of limits. -/
def limitKeys : List String := namesOf limitDefaults

/-- What is under the keys of settings can be used: each has one value, limits
have a whole part, and lists of words are lists of texts.  No variable is
infinite. -/
structure Usable (items : List (Datum × Datum)) (environment : Environment) : Prop where
  single : ∀ key ∈ limitKeys ++ wordKeys, ∀ v w, (Datum.text key, v) ∈ items →
    (Datum.text key, w) ∈ items → v = w
  limits : ∀ key ∈ limitKeys, ∀ v, (Datum.text key, v) ∈ items → ∃ n, v.toWhole = .ok n
  words : ∀ key ∈ wordKeys, ∀ v, (Datum.text key, v) ∈ items →
    ∃ texts : List String, v = .list (texts.map .text)
  finite : ∀ name ∈ namesOf limitVariables, ∀ text, getNamed? name environment = some text →
    (Datum.text text).isInfinite = false

/-- Two files have the same values under the keys of settings. -/
def SameSettings (items items' : List (Datum × Datum)) : Prop :=
  ∀ key ∈ limitKeys ++ wordKeys, ∀ v, (Datum.text key, v) ∈ items' ↔ (Datum.text key, v) ∈ items

/-- Loading succeeds, and these are the settings. -/
def LoadsAs (items : List (Datum × Datum)) (environment : Environment) (used : QuerySettings) :
    Prop :=
  ∃ loaded, (LoadedQuery.load (.entries items) environment).outcome = .ok loaded ∧
    loaded.settings? = some used

variable {items items' : List (Datum × Datum)} {environment : Environment}

theorem Usable.of_same (h : Usable items environment) (hsame : SameSettings items items') :
    Usable items' environment where
  single key hkey v w hv hw :=
    h.single key hkey v w ((hsame key hkey v).1 hv) ((hsame key hkey w).1 hw)
  limits key hkey v hv :=
    h.limits key hkey v ((hsame key (List.mem_append_left _ hkey) v).1 hv)
  words key hkey v hv :=
    h.words key hkey v ((hsame key (List.mem_append_right _ hkey) v).1 hv)
  finite := h.finite

/-! ### The sources determine the settings -/

theorem Truncates.unique {negative : Bool} {units : Nat} {n m : Int}
    (hn : Truncates negative units n) (hm : Truncates negative units m) : n = m := by
  have hsize : n.natAbs = m.natAbs :=
    (Nat.div_eq_of_lt_le hn.le hn.lt).symm.trans (Nat.div_eq_of_lt_le hm.le hm.lt)
  have hn' := hn.sign
  have hm' := hm.sign
  cases negative with
  | false =>
    rw [if_neg Bool.false_ne_true] at hn' hm'
    omega
  | true =>
    rw [if_pos rfl] at hn' hm'
    omega

theorem GivesWhole.unique {name : String} {n m : Int} (hn : GivesWhole environment name n)
    (hm : GivesWhole environment name m) : n = m := by
  obtain ⟨text, negative, units, h, htext, hread, hwhole⟩ := hn
  obtain ⟨text', negative', units', h', htext', hread', hwhole'⟩ := hm
  obtain rfl := Option.some.inj (htext.symm.trans htext')
  obtain ⟨rfl, rfl⟩ := Binary64.finite.inj (Option.some.inj (hread.symm.trans hread'))
  exact hwhole.unique hwhole'

theorem LimitFrom.unique {name key : String} {default n n' : Int} (hkey : key ∈ limitKeys)
    (husable : Usable items environment) (hsame : SameSettings items items')
    (h : LimitFrom items environment name key default n)
    (h' : LimitFrom items' environment name key default n') : n = n' := by
  have hvalue (v : Datum) := hsame key (List.mem_append_left _ hkey) v
  -- the three sources exclude each other, and each gives one value only
  cases h with
  | environment hgives =>
    cases h' with
    | environment hgives' => exact hgives.unique hgives'
    | file hno => exact absurd hgives (hno _)
    | default hno => exact absurd hgives (hno _)
  | @file value n hno hentry hwhole =>
    cases h' with
    | environment hgives => exact absurd hgives (hno _)
    | file _ hentry' hwhole' =>
      obtain rfl := husable.single key (List.mem_append_left _ hkey) _ _ hentry
        ((hvalue _).1 hentry')
      exact Except.ok.inj (hwhole.symm.trans hwhole')
    | default _ hlacks => exact absurd ((hvalue value).2 hentry) (hlacks value)
  | default hno hlacks =>
    cases h' with
    | environment hgives => exact absurd hgives (hno _)
    | file _ hentry => exact absurd ((hvalue _).1 hentry) (hlacks _)
    | default => rfl

theorem WordsFrom.unique {key : String} {default words words' : List String}
    (hkey : key ∈ wordKeys) (husable : Usable items environment)
    (hsame : SameSettings items items') (h : WordsFrom items key default words)
    (h' : WordsFrom items' key default words') : words = words' := by
  have hvalue (v : Datum) := hsame key (List.mem_append_right _ hkey) v
  -- the words are in the file or they are not, and the two files agree about that
  cases h with
  | @file texts hentry =>
    cases h' with
    | @file texts' hentry' =>
      have hlist := husable.single key (List.mem_append_right _ hkey) _ _ hentry
        ((hvalue _).1 hentry')
      obtain rfl := (List.map_inj_right fun _ _ => Datum.text.inj).1 (Datum.list.inj hlist)
      rfl
    | default hlacks => exact absurd ((hvalue _).2 hentry) (hlacks _)
  | default hlacks =>
    cases h' with
    | file hentry => exact absurd ((hvalue _).1 hentry) (hlacks _)
    | default => rfl

/-- Files with the same values under the keys of settings have the same
settings. -/
theorem Precedence.unique {used used' : QuerySettings} (husable : Usable items environment)
    (hsame : SameSettings items items') (h : Precedence items environment used)
    (h' : Precedence items' environment used') : used = used' := by
  obtain ⟨⟨f, s, z, v, d⟩, ⟨r, t, l⟩⟩ := used
  obtain ⟨⟨f', s', z', v', d'⟩, ⟨r', t', l'⟩⟩ := used'
  obtain rfl : r = r' := h.summaryRows.unique (by decide) husable hsame h'.summaryRows
  obtain rfl : t = t' := h.distinctTexts.unique (by decide) husable hsame h'.distinctTexts
  obtain rfl : l = l' := h.listedTexts.unique (by decide) husable hsame h'.listedTexts
  obtain rfl : f = f' := h.filterKeywords.unique (by decide) husable hsame h'.filterKeywords
  obtain rfl : s = s' := h.sortKeywords.unique (by decide) husable hsame h'.sortKeywords
  obtain rfl : z = z' := h.summarizeKeywords.unique (by decide) husable hsame h'.summarizeKeywords
  obtain rfl : v = v' := h.filterValues.unique (by decide) husable hsame h'.filterValues
  obtain rfl : d = d' :=
    h.descendingKeywords.unique (by decide) husable hsame h'.descendingKeywords
  rfl

/-! ### What a run leaves under a key -/

section Runs

variable {α γ : Type} (gives : α → γ → Prop)

/-- A step leaves the value that it gives, or gives none and leaves the value
that it found. -/
def SetBy (x : α) (before after : γ) : Prop :=
  gives x after ∨ (∀ c, ¬ gives x c) ∧ after = before

/-- A run leaves a value that one of its steps gives, or none gives any and it
leaves the value that it found. -/
def CameFrom (xs : List α) (before after : γ) : Prop :=
  (∃ x ∈ xs, gives x after) ∨ (∀ x ∈ xs, ∀ c, ¬ gives x c) ∧ after = before

variable {gives}

/-- What holds of each step holds of a run that succeeds. -/
theorem Loaded.cameFrom_foldlM {β : Type} {p : β → Prop} {f : β → α → Loaded β} (value : β → γ)
    {xs : List α} (hkept : ∀ x ∈ xs, ∀ b b', p b → (f b x).outcome = .ok b' → p b')
    (hstep : ∀ x ∈ xs, ∀ b b', p b → (f b x).outcome = .ok b' →
      SetBy gives x (value b) (value b'))
    {b b' : β} (hb : p b) (h : (xs.foldlM f b).outcome = .ok b') :
    CameFrom gives xs (value b) (value b') := by
  induction xs generalizing b with
  | nil =>
    obtain rfl := Except.ok.inj h
    exact .inr ⟨List.forall_mem_nil _, rfl⟩
  | cons x xs ih =>
    rw [List.foldlM_cons] at h
    obtain ⟨next, hnext, hrest⟩ := outcome_bind_eq_ok h
    obtain ⟨hx, hxs⟩ := List.forall_mem_cons.1 hstep
    obtain ⟨hkeptx, hkeptxs⟩ := List.forall_mem_cons.1 hkept
    -- the last step that gives a value decides
    rcases ih hkeptxs hxs (hkeptx b next hb hnext) hrest with ⟨y, hy, hgives⟩ | ⟨hnone, hsame⟩
    · exact .inl ⟨y, List.mem_cons_of_mem x hy, hgives⟩
    · rw [hsame]
      rcases hx b next hb hnext with hgives | ⟨hno, hbefore⟩
      · exact .inl ⟨x, List.mem_cons_self, hgives⟩
      · exact .inr ⟨List.forall_mem_cons.2 ⟨hno, hnone⟩, hbefore⟩

end Runs

/-! ### The file -/

theorem Datum.isInfinite_of_toWhole {d : Datum} {n : Int} (h : d.toWhole = .ok n) :
    d.isInfinite = false := by
  have hreal {x : Binary64} (hx : wholePart x = .ok n) : x.isInfinite = false := by
    cases x with
    | infinite negative => cases hx
    | _ => rfl
  -- only these kinds can hold an infinity; of the others there is nothing to show
  cases d with
  | real x => exact hreal h
  | stored v =>
    cases v with
    | real x => exact hreal h
    | _ => rfl
  | scaled m =>
    cases m with
    | infinite negative => cases h
    | _ => rfl
  | text s =>
    change (numberOfText s).bind wholePart = .ok n at h
    rw [isInfinite]
    rcases hread : readReal? s with - | x
    · rfl
    · rw [numberOfText, hread] at h
      exact hreal h
  | _ => rfl

theorem coerce_whole_of_toWhole {value : Datum} {n : Int} (h : value.toWhole = .ok n) :
    Datum.coerce .whole value = .ok (.integer n) := by
  have hvalue : value ≠ .missing := by
    rintro rfl
    cases h
  rw [Datum.coerce_whole_of_ne hvalue, h]
  rfl

theorem mapM_map_text {f : Datum → Option String} (hf : ∀ s, f (.text s) = some s)
    (texts : List String) : (texts.map Datum.text).mapM f = some texts := by
  induction texts with
  | nil => rfl
  | cons s texts ih =>
    rw [List.map_cons, List.mapM_cons, ih, hf]
    rfl

/-- The words of a list of texts. -/
theorem words?_list (texts : List String) :
    LoadedQuery.words? (.list (texts.map .text)) =
      some ((texts.filter fun s => !Text.allBlank s.toList).map Text.lowercase) := by
  rw [LoadedQuery.words?, mapM_map_text fun _ => rfl]
  rfl

theorem namesWords_iff {key : String} : NamesWords key ↔ key ∈ wordKeys := by
  simp only [NamesWords, Vocabulary.replace?, wordKeys, namesOf, Vocabulary.table,
    apply_ite Option.isSome, Option.isSome_some, Option.isSome_none, List.map_cons, List.map_nil,
    List.mem_cons, List.not_mem_nil, or_false, Bool.if_true_left, Bool.or_false, Bool.or_eq_true,
    decide_eq_true_eq]

theorem not_mem_wordKeys {key : String} (h : key ∈ limitKeys) : key ∉ wordKeys := by
  have hall : ∀ key ∈ limitKeys, key ∉ wordKeys := by decide
  exact hall key h

theorem table_replace? {key : String} (h : key ∈ wordKeys) (v : Vocabulary) (words : List String) :
    ((v.replace? key words).getD {}).table = setNamed key words v.table := by
  simp only [wordKeys, namesOf, Vocabulary.table, List.map_cons, List.map_nil, List.mem_cons,
    List.not_mem_nil, or_false] at h
  rcases h with rfl | rfl | rfl | rfl | rfl
  · rfl
  · rfl
  · rfl
  · rfl
  · rfl

namespace Usable

/-- No entry under the key of a limit is infinite. -/
theorem finiteEntry (h : Usable items environment) :
    ∀ entry ∈ items, FiniteEntry limitDefaults entry := by
  rintro ⟨_, value⟩ hentry key ⟨default, hdefault, -⟩ rfl
  -- a value with a whole part is finite
  obtain ⟨n, hn⟩ := h.limits key (mem_namesOf_iff.2 ⟨default, hdefault⟩) value hentry
  exact Datum.isInfinite_of_toWhole hn

/-- No entry refuses the file. -/
theorem not_refuses (h : Usable items environment) (e : SettingsError) : ¬ Refuses items e := by
  intro hrefuses
  cases hrefuses with
  | words hentry hkey hnone =>
    obtain ⟨texts, rfl⟩ := h.words _ (namesWords_iff.1 hkey) _ hentry
    rw [words?_list] at hnone
    cases hnone
  | threshold hentry hkey herror =>
    obtain ⟨default, hdefault, -⟩ := hkey
    obtain ⟨n, hn⟩ := h.limits _ (mem_namesOf_iff.2 ⟨default, hdefault⟩) _ hentry
    rw [coerce_whole_of_toWhole hn] at herror
    cases herror

/-- What one entry does to what has been read. -/
theorem entryRead (h : Usable items environment) {entry : Datum × Datum} (hentry : entry ∈ items)
    {loaded : LoadedQuery} (hknown : LimitsKnown loaded) :
    QuestionEntryRead loaded entry (loaded.readEntry entry) :=
  readEntry_spec hknown (h.finiteEntry entry hentry)

/-- The file is read to its end. -/
theorem exists_read (h : Usable items environment) :
    ∃ read, (items.foldlM LoadedQuery.readEntry {}).outcome = .ok read ∧ LimitsKnown read := by
  rcases foldlM_readEntry_cases h.finiteEntry with ⟨e, -, hrefuses⟩ | hread
  · exact absurd hrefuses (h.not_refuses e)
  · exact hread

end Usable

/-- An entry of the file gives a limit. -/
def GivesLimit (key : String) (entry : Datum × Datum) (limit : Option Datum) : Prop :=
  ∃ value n, entry = (.text key, value) ∧ value.toWhole = .ok n ∧ limit = some (.integer n)

/-- An entry of the file gives a list of words. -/
def GivesWords (key : String) (entry : Datum × Datum) (words : Option (List String)) : Prop :=
  ∃ value found, entry = (.text key, value) ∧ LoadedQuery.words? value = some found ∧
    words = some found

namespace QuestionEntryRead

variable {loaded next : LoadedQuery} {entry : Datum × Datum} {result : Loaded LoadedQuery}
  {key : String}

/-- Only an entry under its key changes a limit. -/
theorem limit_setBy (h : QuestionEntryRead loaded entry result) (hnext : result.outcome = .ok next)
    (hkey : key ∉ wordKeys) (hknown : HasKind key .whole loaded.limits)
    (hwhole : ∀ value, entry = (.text key, value) → ∃ n, value.toWhole = .ok n) :
    SetBy (GivesLimit key) entry (getNamed? key loaded.limits) (getNamed? key next.limits) := by
  cases h with
  -- an entry of words has another key, since no limit is a list of words
  | @words other value words hwords =>
    obtain rfl := Except.ok.inj hnext
    refine .inr ⟨?_, rfl⟩
    rintro c ⟨value', n, heq, -⟩
    obtain ⟨hother, -⟩ := Prod.mk.inj heq
    obtain rfl := Datum.text.inj hother
    exact hkey (namesWords_iff.1 hwords)
  | notWords => cases hnext
  | @limit other value present limit hpresent hlimit =>
    obtain rfl := Except.ok.inj hnext
    -- an entry of a limit counts if it is the one asked about
    by_cases hother : key = other
    · subst hother
      obtain ⟨n, hn⟩ := hwhole value rfl
      rw [coerce_whole_of_toWhole hn] at hlimit
      obtain rfl := Except.ok.inj hlimit
      exact .inl ⟨value, n, rfl, hn, getNamed?_setNamed_self key _ _⟩
    · refine .inr ⟨?_, getNamed?_setNamed_of_ne hother _ _⟩
      rintro c ⟨value', n, heq, -⟩
      exact hother (Datum.text.inj (Prod.mk.inj heq).1).symm
  | notWhole => cases hnext
  -- this key is known, so an unknown entry is not under it
  | unknown hunknown =>
    obtain rfl := Except.ok.inj hnext
    refine .inr ⟨?_, rfl⟩
    rintro c ⟨value', n, rfl, -⟩
    obtain ⟨value, hvalue, -⟩ := hknown
    rw [(hunknown key rfl).2] at hvalue
    cases hvalue

/-- Only an entry under its key changes a list of words. -/
theorem words_setBy (h : QuestionEntryRead loaded entry result) (hnext : result.outcome = .ok next)
    (hkey : key ∈ wordKeys) (hknown : LimitsKnown loaded) :
    SetBy (GivesWords key) entry (getNamed? key loaded.vocabulary.table)
      (getNamed? key next.vocabulary.table) := by
  cases h with
  | @words other value words hother hwords =>
    obtain rfl := Except.ok.inj hnext
    dsimp only
    rw [table_replace? (namesWords_iff.1 hother)]
    -- an entry of words counts if it is under this key
    by_cases hne : key = other
    · subst hne
      exact .inl ⟨value, words, rfl, hwords, getNamed?_setNamed_self key _ _⟩
    · refine .inr ⟨?_, getNamed?_setNamed_of_ne hne _ _⟩
      rintro c ⟨value', found, heq, -⟩
      exact hne (Datum.text.inj (Prod.mk.inj heq).1).symm
  | notWords => cases hnext
  -- a limit is under another key
  | @limit other value present limit hpresent =>
    obtain rfl := Except.ok.inj hnext
    refine .inr ⟨?_, rfl⟩
    rintro c ⟨value', found, heq, -⟩
    obtain ⟨hother, -⟩ := Prod.mk.inj heq
    obtain rfl := Datum.text.inj hother
    obtain ⟨default, hdefault, -⟩ := hknown other present hpresent
    exact not_mem_wordKeys (mem_namesOf_iff.2 ⟨default, hdefault⟩) hkey
  | notWhole => cases hnext
  -- this key is known, so an unknown entry is not under it
  | unknown hunknown =>
    obtain rfl := Except.ok.inj hnext
    refine .inr ⟨?_, rfl⟩
    rintro c ⟨value', found, rfl, -⟩
    exact (hunknown key rfl).1 (namesWords_iff.2 hkey)

end QuestionEntryRead

section Read

variable {read : LoadedQuery} {key : String}

/-- A limit is one that the file gives, or the default. -/
theorem Usable.limit_cameFrom (h : Usable items environment)
    (hread : (items.foldlM LoadedQuery.readEntry {}).outcome = .ok read) (hkey : key ∈ limitKeys) :
    CameFrom (GivesLimit key) items (getNamed? key limitDefaults) (getNamed? key read.limits) := by
  obtain ⟨default, hdefault⟩ := mem_namesOf_iff.1 hkey
  -- the invariant of the run: all limits are known, and this one is a whole number
  refine Loaded.cameFrom_foldlM (fun loaded : LoadedQuery => getNamed? key loaded.limits)
    (p := fun loaded => LimitsKnown loaded ∧ HasKind key .whole loaded.limits) ?_ ?_
    ⟨limitsKnown_default, default, hdefault,
      settingKind_limitDefaults _ (mem_of_getNamed? hdefault)⟩ hread
  · rintro entry hentry loaded next ⟨hknown, hkind⟩ hnext
    refine ⟨(h.entryRead hentry hknown).limitsKnown hknown hnext, hkind.readEntry ?_ hnext⟩
    rintro rfl
    obtain ⟨n, hn⟩ := h.limits key hkey _ hentry
    cases hn
  · rintro entry hentry loaded next ⟨hknown, hkind⟩ hnext
    refine (h.entryRead hentry hknown).limit_setBy hnext (not_mem_wordKeys hkey) hkind ?_
    rintro value rfl
    exact h.limits key hkey value hentry

/-- A list of words is one that the file gives, or the default. -/
theorem Usable.words_cameFrom (h : Usable items environment)
    (hread : (items.foldlM LoadedQuery.readEntry {}).outcome = .ok read) (hkey : key ∈ wordKeys) :
    CameFrom (GivesWords key) items (getNamed? key ({} : Vocabulary).table)
      (getNamed? key read.vocabulary.table) := by
  refine Loaded.cameFrom_foldlM
    (fun loaded : LoadedQuery => getNamed? key loaded.vocabulary.table)
    (p := LimitsKnown) ?_ ?_ limitsKnown_default hread
  · intro entry hentry loaded next hknown hnext
    exact (h.entryRead hentry hknown).limitsKnown hknown hnext
  · intro entry hentry loaded next hknown hnext
    exact (h.entryRead hentry hknown).words_setBy hnext hkey hknown

end Read

/-! ### The environment -/

/-- A variable overrides the limit under this key. -/
def Overrides (environment : Environment) (key : String) (entry : String × String)
    (limit : Option Datum) : Prop :=
  entry.2 = key ∧ ∃ n, GivesWhole environment entry.1 n ∧ limit = some (.integer n)

theorem truncates_signed (negative : Bool) (units : Nat) :
    Truncates negative units (Binary64.signed negative (units / Binary64.unitsPerOne)) := by
  have hsize : (Binary64.signed negative (units / Binary64.unitsPerOne)).natAbs =
      units / Binary64.unitsPerOne := by
    cases negative with
    | false => exact Int.natAbs_natCast _
    | true => exact (Int.natAbs_neg _).trans (Int.natAbs_natCast _)
  -- not past the number, closer than one whole, and on its side of zero
  refine ⟨?_, ?_, ?_⟩
  · rw [hsize]
    exact Nat.div_mul_le_self _ _
  · rw [hsize, Nat.mul_comm]
    exact Nat.lt_mul_div_succ units Binary64.unitsPerOne_pos
  · cases negative with
    | false => exact Int.natCast_nonneg _
    | true => exact Int.neg_nonpos_of_nonneg (Int.natCast_nonneg _)

/-- A text that is no infinity is turned into the whole number that it gives,
or it gives none and cannot be. -/
theorem coerce_text_cases {name text : String} (htext : getNamed? name environment = some text)
    (hfinite : (Datum.text text).isInfinite = false) :
    (∃ n, Datum.coerce .whole (.text text) = .ok (.integer n) ∧ GivesWhole environment name n) ∨
      (∃ e, Datum.coerce .whole (.text text) = .error e) ∧ ∀ n, ¬ GivesWhole environment name n := by
  have hcoerce : Datum.coerce .whole (.text text) =
      .integer <$> (Datum.numberOfText text >>= Datum.wholePart) := rfl
  have hnone (h : ∀ negative units hunits, readReal? text ≠ some (.finite negative units hunits))
      (n : Int) : ¬ GivesWhole environment name n := by
    rintro ⟨text', negative, units, hunits, htext', hread, -⟩
    obtain rfl := Option.some.inj (htext.symm.trans htext')
    exact h negative units hunits hread
  rw [hcoerce, Datum.numberOfText]
  rw [Datum.isInfinite] at hfinite
  -- a text that is no number and one that is not a number at all are refused alike
  rcases hread : readReal? text with - | x
  · exact .inr ⟨⟨_, rfl⟩, hnone fun _ _ _ h => by rw [hread] at h; cases h⟩
  · rw [hread] at hfinite
    cases x with
    | finite negative units hunits =>
      exact .inl ⟨_, rfl, text, negative, units, hunits, htext, hread, truncates_signed _ _⟩
    | infinite negative => cases hfinite
    | nan => exact .inr ⟨⟨_, rfl⟩, hnone fun _ _ _ h => by rw [hread] at h; cases h⟩

/-- Only its variable changes a limit. -/
theorem overrideOne_setBy {settings next : SettingsTable} {entry : String × String} {key : String}
    (hkind : HasKind key .whole settings)
    (hfinite : ∀ text, getNamed? entry.1 environment = some text →
      (Datum.text text).isInfinite = false)
    (hnext : (overrideOne environment settings entry.1 entry.2).outcome = .ok next) :
    SetBy (Overrides environment key) entry (getNamed? key settings) (getNamed? key next) := by
  obtain ⟨name, other⟩ := entry
  -- by whether the variable belongs to this key
  by_cases hother : other = key
  · subst hother
    obtain ⟨present, hpresent, hwhole⟩ := hkind
    rw [overrideOne, hpresent] at hnext
    -- if it does, it counts only where it is set, and to a number
    rcases htext : getNamed? name environment with - | text
    · rw [htext] at hnext
      obtain rfl := Except.ok.inj hnext
      refine .inr ⟨?_, rfl⟩
      rintro c ⟨-, n, ⟨text, negative, units, hunits, htext', -⟩, -⟩
      rw [htext] at htext'
      cases htext'
    · simp only [htext, hwhole] at hnext
      rcases coerce_text_cases htext (hfinite text htext) with ⟨n, hn, hgives⟩ | ⟨⟨e, he⟩, hnone⟩
      · rw [hn] at hnext
        obtain rfl := Except.ok.inj hnext
        exact .inl ⟨rfl, n, hgives, getNamed?_setNamed_self other _ _⟩
      · rw [he] at hnext
        dsimp only at hnext
        split at hnext
        · cases hnext
        · obtain rfl := Except.ok.inj hnext
          refine .inr ⟨?_, rfl⟩
          rintro c ⟨-, n, hgives, -⟩
          exact hnone n hgives
  -- the variable of another key leaves this one alone
  · have hnumber : ∀ present text, getNamed? other settings = some present →
        present.settingKind = .whole → getNamed? name environment = some text →
          (Datum.text text).isInfinite = false := fun _ text _ _ htext => hfinite text htext
    obtain ⟨next', hnext', hothers, -⟩ := overrideOne_spec hnumber
    obtain rfl := Except.ok.inj (hnext.symm.trans hnext')
    exact .inr ⟨fun c h => hother h.1, hothers key (Ne.symm hother)⟩

/-- The variables of limits are one for each key. -/
theorem limitVariables_inj : ∀ p ∈ limitVariables, ∀ q ∈ limitVariables, p.2 = q.2 → p = q := by
  decide

namespace Usable

variable {read : LoadedQuery} {after : SettingsTable}

/-- A limit is one that its variable gives, or as it was. -/
theorem override_cameFrom (h : Usable items environment) {settings : SettingsTable} {key : String}
    (hkind : HasKind key .whole settings)
    (hafter : (applyOverrides environment limitVariables settings).outcome = .ok after) :
    CameFrom (Overrides environment key) limitVariables (getNamed? key settings)
      (getNamed? key after) := by
  refine Loaded.cameFrom_foldlM (getNamed? key) (p := HasKind key .whole) ?_ ?_ hkind hafter
  · exact fun entry _ _ _ hkind hnext => hkind.overrideOne (.inl rfl) hnext
  · exact fun entry hentry _ _ hkind hnext =>
      overrideOne_setBy hkind (h.finite entry.1 (List.mem_map_of_mem hentry)) hnext

/-- A loaded limit comes from the first of its sources. -/
theorem exists_limit (h : Usable items environment)
    (hread : (items.foldlM LoadedQuery.readEntry {}).outcome = .ok read)
    (hafter : (applyOverrides environment limitVariables read.limits).outcome = .ok after)
    {name key : String} (hmem : (name, key) ∈ limitVariables) {default : Int}
    (hdefault : getNamed? key limitDefaults = some (.integer default)) :
    ∃ n, getNamed? key after = some (.integer n) ∧
      LimitFrom items environment name key default n := by
  have hkey : key ∈ limitKeys := mem_namesOf_iff.2 ⟨_, hdefault⟩
  -- first what the file leaves behind: the value of its entry, or the default
  have hfile : (∃ value n, (.text key, value) ∈ items ∧ value.toWhole = .ok n ∧
      getNamed? key read.limits = some (.integer n)) ∨
      Lacks items key ∧ getNamed? key read.limits = some (.integer default) := by
    rcases h.limit_cameFrom hread hkey with ⟨_, hentry, value, n, rfl, hn, hlimit⟩ | ⟨hnone, hsame⟩
    · exact .inl ⟨value, n, hentry, hn, hlimit⟩
    · refine .inr ⟨fun value hentry => ?_, hsame.trans hdefault⟩
      obtain ⟨n, hn⟩ := h.limits key hkey value hentry
      exact hnone _ hentry _ ⟨value, n, rfl, hn, rfl⟩
  -- either way it is a whole number, so the environment overrides it with one
  have hkind : HasKind key .whole read.limits := by
    rcases hfile with ⟨value, n, -, -, hlimit⟩ | ⟨-, hlimit⟩
    · exact ⟨_, hlimit, rfl⟩
    · exact ⟨_, hlimit, rfl⟩
  rcases h.override_cameFrom hkind hafter with ⟨entry, hentry, heq, n, hgives, hlimit⟩ |
    ⟨hnone, hsame⟩
  · obtain rfl := limitVariables_inj entry hentry (name, key) hmem heq
    exact ⟨n, hlimit, .environment hgives⟩
  -- nothing in the environment gives a number, so what the file left stays
  · have hunread (m : Int) : ¬ GivesWhole environment name m :=
      fun hgives => hnone _ hmem _ ⟨rfl, m, hgives, rfl⟩
    rw [hsame]
    rcases hfile with ⟨value, n, hentry, hn, hlimit⟩ | ⟨hlacks, hlimit⟩
    · exact ⟨n, hlimit, .file hunread hentry hn⟩
    · exact ⟨default, hlimit, .default hunread hlacks⟩

/-- A loaded list of words comes from the first of its sources. -/
theorem wordsFrom (h : Usable items environment)
    (hread : (items.foldlM LoadedQuery.readEntry {}).outcome = .ok read) {key : String}
    {default words : List String}
    (hdefault : getNamed? key ({} : Vocabulary).table = some default)
    (hwords : getNamed? key read.vocabulary.table = some words) :
    WordsFrom items key default words := by
  have hkey : key ∈ wordKeys := mem_namesOf_iff.2 ⟨_, hdefault⟩
  rcases h.words_cameFrom hread hkey with ⟨_, hentry, value, found, rfl, hfound, hgiven⟩ |
    ⟨hnone, hsame⟩
  · obtain ⟨texts, rfl⟩ := h.words key hkey value hentry
    rw [words?_list] at hfound
    obtain rfl := Option.some.inj hfound
    obtain rfl := Option.some.inj (hwords.symm.trans hgiven)
    exact .file hentry
  · obtain rfl : words = default := Option.some.inj (hwords.symm.trans (hsame.trans hdefault))
    refine .default fun value hentry => ?_
    obtain ⟨texts, rfl⟩ := h.words key hkey value hentry
    exact hnone _ hentry _ ⟨_, _, rfl, words?_list texts, rfl⟩

/-- The settings are loaded, each from the first of its sources. -/
theorem exists_loadsAs (h : Usable items environment) :
    ∃ used, LoadsAs items environment used ∧ Precedence items environment used := by
  obtain ⟨read, hread, hknown⟩ := h.exists_read
  obtain ⟨after, hafter, -, -⟩ :=
    applyOverrides_spec environment read.limits (by decide : (limitVariables.map (·.2)).Nodup)
      fun name key hmem _ text _ _ htext => h.finite name (List.mem_map_of_mem hmem) text htext
  -- each limit is there after the overrides, with the source that counts for it
  obtain ⟨rows, hrows, hrowsFrom⟩ := h.exists_limit hread hafter
    (by decide : ("SUMMARY_ROW_THRESHOLD", "summary_row_threshold") ∈ limitVariables) rfl
  obtain ⟨distinct, hdistinct, hdistinctFrom⟩ := h.exists_limit hread hafter
    (by decide : ("CATEGORICAL_MAX_DISTINCT", "categorical_max_distinct") ∈ limitVariables) rfl
  obtain ⟨listed, hlisted, hlistedFrom⟩ := h.exists_limit hread hafter
    (by decide : ("DISTRIBUTION_TOP_N", "distribution_top_n") ∈ limitVariables) rfl
  refine ⟨⟨read.vocabulary, ⟨rows, distinct, listed⟩⟩, ⟨{ read with limits := after }, ?_, ?_⟩, ?_⟩
  · rw [load_entries, Loaded.bind_of_ok hread, Loaded.bind_of_ok hafter]
    rfl
  · simp only [LoadedQuery.settings?, hrows, hdistinct, hlisted]
    rfl
  · exact {
      summaryRows := hrowsFrom
      distinctTexts := hdistinctFrom
      listedTexts := hlistedFrom
      filterKeywords := h.wordsFrom hread rfl rfl
      sortKeywords := h.wordsFrom hread rfl rfl
      summarizeKeywords := h.wordsFrom hread rfl rfl
      filterValues := h.wordsFrom hread rfl rfl
      descendingKeywords := h.wordsFrom hread rfl rfl }

end Usable

/-- **Precedence of the settings of questions.**  A file with usable values is
loaded: each limit is the number of its variable, else the value of the file,
else the default, and each list of words that of the file, else the default.  A
file with other keys besides, or with its keys in another order, gives the same
settings. -/
theorem load_precedence (h : Usable items environment) :
    ∃ used, LoadsAs items environment used ∧ Precedence items environment used ∧
      ∀ items', SameSettings items items' → LoadsAs items' environment used := by
  obtain ⟨used, hloads, hfrom⟩ := h.exists_loadsAs
  refine ⟨used, hloads, hfrom, fun items' hsame => ?_⟩
  obtain ⟨used', hloads', hfrom'⟩ := (h.of_same hsame).exists_loadsAs
  rwa [hfrom.unique h hsame hfrom']

/-- A file with settings of both sorts, a key that no setting has, and none of
its keys in their usual place. -/
def mixedFile : List (Datum × Datum) :=
  [(.text "distribution_top_n", .text "5.9"), (.text "colour", .missing),
    (.text "sort_keywords", .list (["Rank", " \t", "ORDER by"].map .text)),
    (.text "summary_row_threshold", .boolean true)]

/-- A text that is a number, and one that is none. -/
def mixedTexts : Environment :=
  [("SUMMARY_ROW_THRESHOLD", " -7.8e0 "), ("DISTRIBUTION_TOP_N", "many")]

theorem mem_mixedFile {key : String} {value : Datum} (h : (Datum.text key, value) ∈ mixedFile) :
    key = "distribution_top_n" ∧ value = .text "5.9" ∨ key = "colour" ∧ value = .missing ∨
      key = "sort_keywords" ∧ value = .list (["Rank", " \t", "ORDER by"].map .text) ∨
      key = "summary_row_threshold" ∧ value = .boolean true := by
  simpa only [mixedFile, List.mem_cons, List.not_mem_nil, or_false, Prod.mk.injEq,
    Datum.text.injEq] using h

theorem usable_mixedFile : Usable mixedFile mixedTexts where
  -- every condition is looked up entry by entry
  single := by
    intro key _ v w hv hw
    rcases mem_mixedFile hv with ⟨rfl, rfl⟩ | ⟨rfl, rfl⟩ | ⟨rfl, rfl⟩ | ⟨rfl, rfl⟩
    all_goals simpa [eq_comm] using mem_mixedFile hw
  limits := by
    intro key hkey v hv
    rcases mem_mixedFile hv with ⟨rfl, rfl⟩ | ⟨rfl, rfl⟩ | ⟨rfl, rfl⟩ | ⟨rfl, rfl⟩
    · exact ⟨5, by decide +kernel⟩
    · exact absurd hkey (by decide)
    · exact absurd hkey (by decide)
    · exact ⟨1, rfl⟩
  words := by
    intro key hkey v hv
    rcases mem_mixedFile hv with ⟨rfl, rfl⟩ | ⟨rfl, rfl⟩ | ⟨rfl, rfl⟩ | ⟨rfl, rfl⟩
    · exact absurd hkey (by decide)
    · exact absurd hkey (by decide)
    · exact ⟨_, rfl⟩
    · exact absurd hkey (by decide)
  finite := by
    intro name _ text htext
    have hmem := mem_of_getNamed? htext
    simp only [mixedTexts, List.mem_cons, List.not_mem_nil, Prod.mk.injEq, or_false] at hmem
    rcases hmem with ⟨-, rfl⟩ | ⟨-, rfl⟩
    · decide +kernel
    · decide +kernel

/-- The variable wins over the truth value of the file, the text of the file
over a variable that is no number, and a text of white space is no word. -/
theorem load_precedence_mixedFile :
    Usable mixedFile mixedTexts ∧ ∃ used, LoadsAs mixedFile mixedTexts used ∧
      Precedence mixedFile mixedTexts used ∧
      (∀ items', SameSettings mixedFile items' → LoadsAs items' mixedTexts used) ∧
      used = { vocabulary := { sortKeywords := ["rank", "order by"] }, limits := ⟨-7, 10, 5⟩ } := by
  obtain ⟨used, hloads, hfrom, hsame⟩ := load_precedence usable_mixedFile
  refine ⟨usable_mixedFile, used, hloads, hfrom, hsame, ?_⟩
  have hsettings : (LoadedQuery.load (.entries mixedFile) mixedTexts).outcome.toOption.bind
      LoadedQuery.settings? = some
        { vocabulary := { sortKeywords := ["rank", "order by"] }, limits := ⟨-7, 10, 5⟩ } := by
    decide +kernel
  obtain ⟨loaded, hloaded, hused⟩ := hloads
  rw [hloaded] at hsettings
  exact Option.some.inj (hused.symm.trans hsettings)

end TableQuery
