/-
TableQuery/Question/Settings.lean

What the reading of a question depends on: the words that carry meaning and
the limits of a summary.

Every list is scanned in its order and the first match wins, so the order of
a list is part of its meaning.  The words are expected in lower case.
-/

namespace TableQuery

/-- The words that carry meaning in a question. -/
structure Vocabulary where
  /-- Any of these asks for a filter. -/
  filterKeywords : List String := ["filter", "show", "only", "which", "where"]
  /-- Any of these asks for sorting. -/
  sortKeywords : List String := ["sort", "order by", "arrange"]
  /-- Any of these asks for a summary. -/
  summarizeKeywords : List String := ["summarize", "summary", "stats", "statistics", "count"]
  /-- The values that a filter can ask for. -/
  filterValues : List String :=
    ["ok", "not ok", "yes", "no", "true", "false", "pass", "fail"]
  /-- Any of these asks for descending order. -/
  descendingKeywords : List String :=
    ["descending", "desc", "high to low", "largest", "highest"]
  deriving DecidableEq, Inhabited

/-- The limits of a summary. -/
structure Limits where
  /-- Answers of more rows than this are summarized unasked. -/
  summaryRows : Int := 10
  /-- Columns of at most this many distinct texts get a distribution. -/
  distinctTexts : Int := 10
  /-- A distribution lists this many texts. -/
  listedTexts : Int := 3
  deriving DecidableEq, Inhabited

/-- What the reading of a question depends on. -/
structure QuerySettings where
  vocabulary : Vocabulary := {}
  limits : Limits := {}
  deriving DecidableEq, Inhabited

end TableQuery
