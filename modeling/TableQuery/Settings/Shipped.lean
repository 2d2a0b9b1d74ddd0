/-
TableQuery/Settings/Shipped.lean

The documents of the settings files that come with the program.  They say
what the defaults say.
-/
import TableQuery.Datum

namespace TableQuery.Shipped

/-- An entry of a document. -/
def entry (key : String) (value : Datum) : Datum × Datum := (.text key, value)

/-- A list of words. -/
def wordList (words : List String) : Datum := .list (words.map .text)

/-- The settings of questions. -/
def query : Datum := .entries [
  entry "filter_keywords" (wordList ["filter", "show", "only", "which", "where"]),
  entry "sort_keywords" (wordList ["sort", "order by", "arrange"]),
  entry "summarize_keywords" (wordList ["summarize", "summary", "stats", "statistics", "count"]),
  entry "filter_values"
    (wordList ["ok", "not ok", "yes", "no", "true", "false", "pass", "fail"]),
  entry "descending_keywords"
    (wordList ["descending", "desc", "high to low", "largest", "highest"]),
  entry "summary_row_threshold" (.integer 10),
  entry "categorical_max_distinct" (.integer 10),
  entry "distribution_top_n" (.integer 3)]

/-- The settings of the log. -/
def logging : Datum := .entries [
  entry "root_level" (.text "INFO"),
  entry "format" (.text "%(asctime)s - %(name)s - %(levelname)s - %(message)s"),
  entry "module_levels" (.entries [
    entry "sheet_chat.core" (.text "INFO"),
    entry "sheet_chat.ui" (.text "INFO")]),
  entry "reduce_noise" (.entries [
    entry "streamlit" (.text "WARNING"),
    entry "openpyxl" (.text "WARNING")])]

/-- The settings of the page. -/
def interface : Datum := .entries [
  entry "page_title" (.text "Sheet Chat"),
  entry "max_upload_size_mb" (.integer 50),
  entry "preview_rows" (.integer 20),
  entry "log_level" (.text "INFO")]

end TableQuery.Shipped
