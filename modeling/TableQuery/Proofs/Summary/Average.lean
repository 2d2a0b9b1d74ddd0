/-
TableQuery/Proofs/Summary/Average.lean

Averages and the range of the numbers.

An average is the rounded total by the count, and the total is rounded after
every addition.  Three cells of 123456789012345.6 have an average that is less
than each of them, and the line shows it (`average_leaves_range`).  What can be
said of every column of finite numbers is that its average lies between those
that the least number, or the greatest, would have in place of every number.
Where these two need no rounding of sums, or the column itself needs none, the
average lies between the least and the greatest number, and so do the numbers
that the line shows.

Main result: `Summary.average_enclosed`.
-/
import TableQuery.Proofs.Number.Fixed
import TableQuery.Proofs.Summary.Statistics

namespace TableQuery

open Binary64

/-- The average lies between the least and the greatest number, and the line
shows numerals of which the same holds. -/
structure ColumnStats.Enclosed (stats : ColumnStats) : Prop where
  minimum : stats.minimum.AtMost stats.average
  maximum : stats.average.AtMost stats.maximum
  shown : ∃ least greatest mean : String,
    stats.line = stats.column ++ ": Min=" ++ least ++ ", Max=" ++ greatest ++ ", Avg=" ++ mean ∧
      ∃ low high middle : Numeral, low.Written least.toList ∧ high.Written greatest.toList ∧
        middle.Written mean.toList ∧ low.value ≤ middle.value ∧ middle.value ≤ high.value

/-- What lies between finite bounds is shown between them. -/
theorem ColumnStats.enclosed_of_atMost {stats : ColumnStats}
    (hmin : stats.minimum.AtMost stats.average) (hmax : stats.average.AtMost stats.maximum)
    (hlow : stats.minimum.isFinite = true) (hhigh : stats.maximum.isFinite = true) :
    stats.Enclosed where
  minimum := hmin
  maximum := hmax
  shown := by
    have hmean := hmin.isFinite_of_between hmax hlow hhigh
    obtain ⟨low, hlowWritten, hlowValue⟩ := exists_written_fixed hlow 2
    obtain ⟨high, hhighWritten, hhighValue⟩ := exists_written_fixed hhigh 2
    obtain ⟨middle, hmiddleWritten, hmiddleValue⟩ := exists_written_fixed hmean 2
    refine ⟨_, _, _, rfl, low, high, middle, hlowWritten, hhighWritten, hmiddleWritten, ?_, ?_⟩
    · rw [hlowValue, hmiddleValue]
      exact hmin.fixedUnits_div_le 2
    · rw [hmiddleValue, hhighValue]
      exact hmax.fixedUnits_div_le 2

/-- Statistics that are made of finite numbers: how many they are, their average,
and bounds that are finite as well. -/
structure ColumnStats.MadeOf (stats : ColumnStats) (numbers : List Binary64) : Prop where
  ne_nil : numbers ≠ []
  count : stats.count = numbers.length
  average : stats.average = averageOf numbers
  minimum : ∀ x ∈ numbers, AtMostFinite stats.minimum x
  maximum : ∀ x ∈ numbers, AtMostFinite x stats.maximum

theorem madeOf_columnStats? {rows : List Row} {column : String} {stats : ColumnStats}
    (h : columnStats? rows column = some stats)
    (hfinite : ∀ x ∈ columnNumbers rows column, x.isFinite = true) :
    stats.MadeOf (columnNumbers rows column) := by
  have hdescribes := columnStats?_describes h
  obtain ⟨x, xs, hnumbers, rfl⟩ := exists_of_columnStats? h
  -- the extremes are numbers of the column, so they are finite with the others
  have hmin := hfinite _ (mem_columnNumbers.2 hdescribes.minimum)
  have hmax := hfinite _ (mem_columnNumbers.2 hdescribes.maximum)
  refine ⟨?_, ?_, ?_, ?_, ?_⟩
  · rw [hnumbers]
    exact List.cons_ne_nil x xs
  · rw [hnumbers, List.length_cons]
  · rw [hnumbers]
    rfl
  · intro y hy
    obtain ⟨row, hrow, hcell⟩ := mem_columnNumbers.1 hy
    exact ⟨(hdescribes.between row hrow y hcell).1, hmin, hfinite y hy⟩
  · intro y hy
    obtain ⟨row, hrow, hcell⟩ := mem_columnNumbers.1 hy
    exact ⟨(hdescribes.between row hrow y hcell).2, hfinite y hy, hmax⟩

namespace ColumnStats.MadeOf

variable {stats : ColumnStats} {numbers : List Binary64}

/-- The average lies between the averages of the bounds. -/
theorem levelAverages (h : stats.MadeOf numbers) :
    (levelAverage stats.count stats.minimum).AtMost stats.average ∧
      stats.average.AtMost (levelAverage stats.count stats.maximum) := by
  rw [h.count, h.average]
  exact ⟨levelAverage_atMost h.ne_nil h.minimum, atMost_levelAverage h.ne_nil h.maximum⟩

/-- Without rounding in the sums of the numbers, or in those of the bounds, the
average lies between the bounds. -/
theorem enclosed (h : stats.MadeOf numbers)
    (hexact : ExactSums numbers ∨ (ExactSums (List.replicate stats.count stats.minimum) ∧
      ExactSums (List.replicate stats.count stats.maximum))) : stats.Enclosed := by
  obtain ⟨x, hx⟩ := List.exists_mem_of_ne_nil numbers h.ne_nil
  have hlow := (h.minimum x hx).2.1
  have hhigh := (h.maximum x hx).2.2
  rcases hexact with hexact | ⟨hexactLow, hexactHigh⟩
  · apply enclosed_of_atMost ?_ ?_ hlow hhigh
    · rw [h.average]
      exact atMost_averageOf h.ne_nil hexact h.minimum
    · rw [h.average]
      exact averageOf_atMost h.ne_nil hexact h.maximum
  -- the average lies between the averages of as many copies of the least number and of the
  -- greatest, and those are exact
  · obtain ⟨hbelow, habove⟩ := h.levelAverages
    have hne : ∀ y : Binary64, List.replicate stats.count y ≠ [] := by
      intro y hnil
      rw [List.replicate_eq_nil_iff, h.count] at hnil
      exact h.ne_nil (List.length_eq_zero_iff.1 hnil)
    have hlevel : ∀ {y : Binary64}, y.isFinite = true →
        ∀ z ∈ List.replicate stats.count y, AtMostFinite y z ∧ AtMostFinite z y := by
      intro y hy z hz
      rw [List.eq_of_mem_replicate hz]
      have hself : y.AtMost y := .inr (equal_refl (isNaN_of_isFinite hy))
      exact ⟨⟨hself, hy, hy⟩, ⟨hself, hy, hy⟩⟩
    apply enclosed_of_atMost ?_ ?_ hlow hhigh
    · exact (atMost_averageOf (hne _) hexactLow fun z hz => (hlevel hlow z hz).1).trans hbelow
    · exact habove.trans (averageOf_atMost (hne _) hexactHigh fun z hz => (hlevel hhigh z hz).2)

end ColumnStats.MadeOf

/-- **The average lies between the averages of the bounds**, each taken as often
as there are numbers; and it lies between the bounds, also as the line shows
them, if no sum has to be rounded on the way, be it of the numbers or of the
bounds. -/
theorem Summary.average_enclosed (limits : Limits) (columns : List String) (requested : Bool)
    (rows : List Row) {stats : ColumnStats}
    (hstats : stats ∈ (ofRows limits columns requested rows).numeric)
    (hfinite : ∀ row ∈ rows, ∀ x, (row.cell stats.column).number? = some x → x.isFinite = true) :
    (levelAverage stats.count stats.minimum).AtMost stats.average ∧
      stats.average.AtMost (levelAverage stats.count stats.maximum) ∧
      (ExactSums (columnNumbers rows stats.column) ∨
          (ExactSums (List.replicate stats.count stats.minimum) ∧
            ExactSums (List.replicate stats.count stats.maximum)) →
        stats.Enclosed) := by
  obtain ⟨column, hcolumn⟩ := exists_columnStats?_of_mem hstats
  obtain rfl := column_of_columnStats? hcolumn
  have hmade : stats.MadeOf (columnNumbers rows stats.column) := by
    apply madeOf_columnStats? hcolumn
    intro x hx
    obtain ⟨row, hrow, hcell⟩ := mem_columnNumbers.1 hx
    exact hfinite row hrow x hcell
  exact ⟨hmade.levelAverages.1, hmade.levelAverages.2, hmade.enclosed⟩

/-- Hours of three days, one of them without work. -/
def workedHours : List Row :=
  [[("hours", .text "7.5")], [("hours", .text "none")],
    [("hours", .number (.whole 6 (by decide +kernel)))]]

/-- Half hours are added without rounding. -/
theorem Summary.average_enclosed_workedHours :
    ExactSums (columnNumbers workedHours "hours") ∧
      ∃ stats ∈ (ofRows {} ["hours"] true workedHours).numeric,
        (levelAverage stats.count stats.minimum).AtMost stats.average ∧ stats.Enclosed := by
  have hexact : ExactSums (columnNumbers workedHours "hours") := by decide +kernel
  obtain ⟨stats, hstats, hcolumn⟩ :
      ∃ stats ∈ (ofRows {} ["hours"] true workedHours).numeric, stats.column = "hours" := by
    decide +kernel
  have hinfinite : ∀ row ∈ workedHours, (row.cell stats.column).isInfinite = false := by
    rw [hcolumn]
    decide +kernel
  obtain ⟨hlevel, -, henclosed⟩ := average_enclosed {} ["hours"] true workedHours hstats
    fun row hrow x hx => Cell.isFinite_of_number? (hinfinite row hrow) hx
  exact ⟨hexact, stats, hstats, hlevel, henclosed (.inl (hcolumn ▸ hexact))⟩

/-- Three readings of a meter, all the same. -/
def steadyReadings : List Row := List.replicate 3 [("reading", .text "123456789012345.6")]

/-- **An average can be less than every number**, on the line as well. -/
theorem Summary.average_leaves_range :
    (∀ row ∈ steadyReadings, ∀ x, (row.cell "reading").number? = some x → x.isFinite = true) ∧
      ∃ stats ∈ (ofRows {} ["reading"] true steadyReadings).numeric,
        stats.column = "reading" ∧ ¬ stats.minimum.AtMost stats.average ∧
          stats.line =
            "reading: Min=123456789012345.59, Max=123456789012345.59, Avg=123456789012345.58" := by
  refine ⟨?_, by decide +kernel⟩
  intro row hrow x hx
  rw [List.eq_of_mem_replicate hrow] at hx
  exact Cell.isFinite_of_number? rfl hx

end TableQuery
