/-
TableQuery/Question/Intent.lean

What a question asks for.

A question can ask for several things at once ("sort by price and
summarize"), so an intent is three independent answers.  A question that asks
for none of them is a search for its own text.
-/
import TableQuery.Question.Settings
import TableQuery.Text.Occurrence

namespace TableQuery

open Text

/-- What a question asks for. -/
structure Intent where
  filter : Bool := false
  sort : Bool := false
  summarize : Bool := false
  deriving DecidableEq

/-- Whether any of the words occurs in a question, as a part of its text. -/
def mentionsAny (question : String) (words : List String) : Bool :=
  words.any (contains question ·)

namespace Intent

/-- The intent of a question in lower case. -/
def classify (vocabulary : Vocabulary) (question : String) : Intent where
  filter := mentionsAny question vocabulary.filterKeywords
  sort := mentionsAny question vocabulary.sortKeywords
  summarize := mentionsAny question vocabulary.summarizeKeywords

/-- No keyword occurred: the question is a text to search for. -/
def isPlainSearch (i : Intent) : Bool :=
  !(i.filter || i.sort || i.summarize)

/-- The names of what is asked for. -/
def labels (i : Intent) : List String :=
  let named := [("filter", i.filter), ("sort", i.sort), ("summarize", i.summarize)]
  match (named.filter (·.2)).map (·.1) with
  | [] => ["search"]
  | active => active

end Intent

end TableQuery
