/-
TableQuery/Proofs/Answer/Shown.lean

Rows that are shown and rows that are announced.

The table of an answer shows rows up to a limit and announces how many more
there are.  The rows are cut by the limit, and the number is a difference with
it; nothing ties the two together but the limit itself.  Up from zero they add
up to all rows.  Below zero the limit takes rows away from the end, so some
may be shown although none should be, and the difference counts more rows than
there are (`addsUp_iff`).

What a table shows and announces is defined by the lines that it would have
(`linesShowing`), so that a table can be asked which rows it shows without
asking how they were cut.

Main result: `rows_addUp`.
-/
import TableQuery.Proofs.Answer.Markdown
import TableQuery.Proofs.Json.Reading

namespace TableQuery

open Text

/-! ### The limit -/

section Limit

variable {α : Type} (limit : Int) (xs : List α)

theorem takeUpTo_prefix : takeUpTo limit xs <+: xs := by
  cases limit with
  | ofNat n => exact List.take_prefix _ _
  | negSucc n => exact List.take_prefix _ _

/-- A limit below zero takes away from the end. -/
theorem length_takeUpTo :
    ((takeUpTo limit xs).length : Int)
      = if 0 ≤ limit then min limit xs.length else max (xs.length + limit) 0 := by
  cases limit with
  -- the two kinds of limit are two branches of the cut: from the front, and off the end
  | ofNat n =>
    rw [takeUpTo, List.length_take, Int.ofNat_eq_natCast]
    omega
  | negSucc n =>
    rw [takeUpTo, List.length_take]
    omega

end Limit

/-- Whole numbers have texts of their own, since they are read back from them. -/
theorem integerText_injective : Function.Injective integerText := by
  intro m n h
  -- both are what is read back from the one text
  have hm := Json.readNumber?_integerText m Json.apart_nil
  rw [h, Json.readNumber?_integerText n Json.apart_nil] at hm
  exact (congrArg Prod.fst (Option.some.inj hm)).symm

namespace Answer

variable (a : Answer) (maxRows : Int) (field : String → String)

/-! ### What a table shows -/

/-- The line that announces a number of rows. -/
def moreRows (count : Int) : String := "... " ++ integerText count ++ " more rows"

theorem moreRows_injective : Function.Injective moreRows := by
  intro m n h
  have hchars := congrArg String.toList h
  simp only [moreRows, String.toList_append, List.append_cancel_right_eq,
    List.append_cancel_left_eq] at hchars
  exact integerText_injective (String.toList_inj.1 hchars)

/-- The lines of a table that shows some rows and announces a number of others.
A line announces them unless there are none. -/
def linesShowing (shown : List PlacedRow) (announced : Int) : List String :=
  tableLine (a.columns.map field) ::
    ("|" ++ "|".intercalate (a.columns.map fun _ => " --- ") ++ "|") ::
      (shown.map fun r => tableLine (a.columns.map fun c => field (r.row.cell c).shown)) ++
        if announced = 0 then [] else [moreRows announced]

/-- The table shows the rows up to the limit, and announces the difference of
their number and the limit. -/
theorem tableLines_eq_linesShowing :
    a.tableLines maxRows field
      = a.linesShowing field (takeUpTo maxRows a.rows) (max (a.rowCount - maxRows) 0) := by
  rw [tableLines, linesShowing]
  by_cases hmore : maxRows < a.rowCount
  -- more rows than the limit allows: the difference is positive and gets its line
  · have hcount : max ((a.rowCount : Int) - maxRows) 0 = a.rowCount - maxRows := by omega
    rw [if_pos hmore, hcount, if_neg (by omega)]
    rfl
  -- no row is left over: the difference is cut off at zero, and no line stands for it
  · have hcount : max ((a.rowCount : Int) - maxRows) 0 = 0 := by omega
    rw [if_neg hmore, hcount, if_pos rfl]

/-- The table shows some rows from the front, no more than the limit allows,
and announces the others. -/
def AddsUp : Prop :=
  ∃ shown announced, a.tableLines maxRows field = a.linesShowing field shown announced ∧
    shown <+: a.rows ∧ (shown.length : Int) ≤ max maxRows 0 ∧
    shown.length + announced = (a.rowCount : Int)

/-- **The rows add up exactly if the limit is not below zero.** -/
theorem addsUp_iff : a.AddsUp maxRows field ↔ 0 ≤ maxRows := by
  constructor
  · rintro ⟨shown, announced, hlines, -, hlimit, hsum⟩
    by_contra hnegative
    -- nothing may be shown, so all rows would have to be announced
    have hshown : shown = [] := List.eq_nil_iff_length_eq_zero.2 (by omega)
    subst hshown
    obtain rfl : announced = a.rowCount := by simpa using hsum
    have hmore : max ((a.rowCount : Int) - maxRows) 0 = a.rowCount - maxRows := by omega
    rw [tableLines_eq_linesShowing, hmore, linesShowing, linesShowing, if_neg (by omega)] at hlines
    -- the last line tells how many rows are announced: all of them, and the difference too
    have hlast := congrArg List.getLast? (List.cons.inj (List.cons.inj hlines).2).2
    -- without rows one side has no such line; with rows the two numbers differ
    by_cases hnone : (a.rowCount : Int) = 0
    · rw [if_pos hnone] at hlast
      simp at hlast
    · rw [if_neg hnone] at hlast
      have hcount := moreRows_injective (by simpa using hlast)
      omega
  -- up from zero the rows that are shown are the first ones up to the limit
  · intro h
    refine ⟨_, _, a.tableLines_eq_linesShowing maxRows field, takeUpTo_prefix _ _, ?_, ?_⟩
    · rw [length_takeUpTo]
      omega
    · rw [length_takeUpTo]
      show _ = (a.rows.length : Int)
      rw [rowCount]
      omega

/-! ### The two forms of an answer -/

/-- The lines below the table of the plain text. -/
def plainSummary : List String :=
  ["", "Summary:", if a.summaryText = "" then "No summary" else a.summaryText]

/-- The plain text of an answer, line by line. -/
theorem plainText_eq_lines (hdata : a.noData = false) (hrows : a.rows ≠ []) :
    a.plainText maxRows = "\n".intercalate
      ([a.header, ""] ++ a.tableLines maxRows id ++ a.plainSummary) := by
  have hempty : ¬ a.rows.isEmpty = true := fun h => hrows (List.isEmpty_iff.1 h)
  rw [plainText, if_neg (ne_true_of_eq_false hdata), if_neg hempty]
  rfl

/-- **Rows shown and rows announced.**  The plain text and the markdown of an
answer with rows hold one table each.  Under every limit it shows rows from the
front: the first ones up to a limit that is not below zero, and all but that
many of the last ones otherwise; and it announces the difference of all rows
and the limit, if that is more than nothing.  The two are the rows of the
answer, and no more are shown than the limit allows, exactly if the limit is
not below zero. -/
theorem rows_addUp (hdata : a.noData = false) (hrows : a.rows ≠ []) (maxRows : Int) :
    a.plainText maxRows = "\n".intercalate
        ([a.header, ""] ++ a.tableLines maxRows id ++ a.plainSummary) ∧
      a.markdown maxRows = "\n".intercalate
        ([a.markdownTitle, ""] ++ a.tableLines maxRows escapeBars ++ a.markdownSummary) ∧
      ∀ field, a.tableLines maxRows field
          = a.linesShowing field (takeUpTo maxRows a.rows) (max (a.rowCount - maxRows) 0) ∧
        takeUpTo maxRows a.rows <+: a.rows ∧
        ((takeUpTo maxRows a.rows).length : Int)
          = (if 0 ≤ maxRows then min maxRows a.rowCount else max (a.rowCount + maxRows) 0) ∧
        (a.AddsUp maxRows field ↔ 0 ≤ maxRows) := by
  refine ⟨a.plainText_eq_lines maxRows hdata hrows, a.markdown_eq_lines hdata hrows maxRows, ?_⟩
  intro field
  exact ⟨a.tableLines_eq_linesShowing maxRows field, takeUpTo_prefix maxRows a.rows,
    length_takeUpTo maxRows a.rows, a.addsUp_iff maxRows field⟩

/-- Three parts. -/
def parts : Table where
  columns := ["part"]
  rows := [[("part", .text "bolt")], [("part", .text "nut")], [("part", .text "pin")]]
  name := some "stock"

/-- Two of three rows are shown and the third is announced. -/
theorem rows_addUp_parts :
    ∃ a, interpret {} (some "count") (some parts) = .ok a ∧ a.noData = false ∧ a.rows ≠ [] ∧
      a.rowCount = 3 ∧ a.AddsUp 2 id ∧ a.AddsUp 2 escapeBars ∧
      a.plainText 2 = "\n".intercalate
        ([a.header, ""] ++
          ["| part |", "| --- |", "| bolt |", "| nut |", "... 1 more rows"] ++ a.plainSummary) := by
  have hquery : HasWord "count" := ⟨'c', by decide, by decide⟩
  have hrows : (ofData {} (stripped "count") parts).rows ≠ [] :=
    mt List.length_eq_zero_iff.2 (by decide +kernel)
  have hlines : (ofData {} (stripped "count") parts).tableLines 2 id
      = ["| part |", "| --- |", "| bolt |", "| nut |", "... 1 more rows"] := by decide +kernel
  -- the theorem gives the text line by line, and the lines of the table are computed
  obtain ⟨hplain, -, htable⟩ := (ofData {} (stripped "count") parts).rows_addUp rfl hrows 2
  rw [hlines] at hplain
  refine ⟨_, interpret_of_hasData hquery (by decide), rfl, hrows, by decide +kernel, ?_, ?_, hplain⟩
  · exact (htable id).2.2.2.2 (by decide)
  · exact (htable escapeBars).2.2.2.2 (by decide)

/-- Under a limit below zero two of the three rows are shown, where none should
be, and four more are announced. -/
theorem not_addsUp_parts :
    ∃ a, interpret {} (some "count") (some parts) = .ok a ∧ a.noData = false ∧ a.rows ≠ [] ∧
      a.rowCount = 3 ∧
      a.tableLines (-1) id = ["| part |", "| --- |", "| bolt |", "| nut |", "... 4 more rows"] ∧
      ¬ a.AddsUp (-1) id ∧ ¬ a.AddsUp (-1) escapeBars := by
  have hquery : HasWord "count" := ⟨'c', by decide, by decide⟩
  have hnegative : ∀ field, ¬ (ofData {} (stripped "count") parts).AddsUp (-1) field :=
    fun field => mt (addsUp_iff _ _ field).1 (by decide)
  refine ⟨_, interpret_of_hasData hquery (by decide), rfl, ?_, by decide +kernel,
    by decide +kernel, hnegative id, hnegative escapeBars⟩
  exact mt List.length_eq_zero_iff.2 (by decide +kernel)

end Answer

end TableQuery
