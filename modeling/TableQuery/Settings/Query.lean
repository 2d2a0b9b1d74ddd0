/-
TableQuery/Settings/Query.lean

Loading the settings of questions.

A file can replace each list of words and each limit.  Words are lower-cased,
and words of white space only are dropped.  A limit is turned into a whole
number; the environment comes last.  A limit that the file gives as nothing
stays nothing, so the limits of loaded settings are plain values, and
`LoadedQuery.settings?` is where they must be numbers.
-/
import TableQuery.Question.Settings
import TableQuery.Settings.Loading

namespace TableQuery

open Text

/-! ### Keys -/

/-- The limits by key, with the variable that overrides each. -/
def limitVariables : List (String × String) :=
  [("SUMMARY_ROW_THRESHOLD", "summary_row_threshold"),
   ("CATEGORICAL_MAX_DISTINCT", "categorical_max_distinct"),
   ("DISTRIBUTION_TOP_N", "distribution_top_n")]

/-- Replaces the list of words that a key names. -/
def Vocabulary.replace? (v : Vocabulary) (key : String) (words : List String) :
    Option Vocabulary :=
  if key = "filter_keywords" then some { v with filterKeywords := words }
  else if key = "sort_keywords" then some { v with sortKeywords := words }
  else if key = "summarize_keywords" then some { v with summarizeKeywords := words }
  else if key = "filter_values" then some { v with filterValues := words }
  else if key = "descending_keywords" then some { v with descendingKeywords := words }
  else none

/-- The limits by key. -/
def Limits.table (l : Limits) : SettingsTable :=
  [("summary_row_threshold", .integer l.summaryRows),
   ("categorical_max_distinct", .integer l.distinctTexts),
   ("distribution_top_n", .integer l.listedTexts)]

/-! ### Loading -/

/-- Settings of questions as loaded. -/
structure LoadedQuery where
  vocabulary : Vocabulary := {}
  /-- The limits by key. -/
  limits : SettingsTable := ({} : Limits).table

namespace LoadedQuery

/-- The words of a list: lower-cased, without words of white space only. -/
def words? : Datum → Option (List String)
  | .list items => do
    let texts ← items.mapM fun
      | .text s => some s
      | _ => none
    some ((texts.filter fun s => !allBlank s.toList).map lowercase)
  | _ => none

/-- Takes over a limit. -/
def readLimit (loaded : LoadedQuery) (key : String) (value : Datum) : Loaded LoadedQuery :=
  match Datum.coerce .whole value with
  | .ok limit => pure { loaded with limits := setNamed key limit loaded.limits }
  | .error error =>
    .fail (if error.isOverflow then .overflow error else .threshold key value.plainText error)

/-- Takes over one entry of the file. -/
def readEntry (loaded : LoadedQuery) (entry : Datum × Datum) : Loaded LoadedQuery :=
  match entry with
  | (.text key, value) =>
    if (loaded.vocabulary.replace? key []).isSome then
      match words? value with
      | none => .fail (.notWords key)
      | some words =>
        pure { loaded with vocabulary := (loaded.vocabulary.replace? key words).getD {} }
    else if (getNamed? key loaded.limits).isSome then loaded.readLimit key value
    else .warn (.unknownKey key) loaded
  | (key, _) => .warn (.unknownKey key.plainText) loaded

/-- Loads the settings of questions from a document and the environment. -/
def load (document : Datum) (environment : Environment) : Loaded LoadedQuery := do
  let entries ← documentEntries document
  let loaded ← entries.foldlM readEntry {}
  let limits ← applyOverrides environment limitVariables loaded.limits
  return { loaded with limits }

/-- The settings, if every limit is a whole number. -/
def settings? (loaded : LoadedQuery) : Option QuerySettings := do
  let limit (key : String) : Option Int :=
    match getNamed? key loaded.limits with
    | some (.integer n) => some n
    | _ => none
  some {
    vocabulary := loaded.vocabulary
    limits := {
      summaryRows := ← limit "summary_row_threshold"
      distinctTexts := ← limit "categorical_max_distinct"
      listedTexts := ← limit "distribution_top_n" } }

end LoadedQuery

end TableQuery
