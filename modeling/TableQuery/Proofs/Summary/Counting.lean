/-
TableQuery/Proofs/Summary/Counting.lean

Filters on a column and the distribution of the column.

A filter for a value compares texts in lower case; a distribution counts every
spelling on its own.  A filter without a value asks whether a cell is empty; a
distribution sees texts only.  The two agree: the rows that a filter keeps are
counted by summing over the spellings of its value, and the rows that a filter
without a value drops are those of the empty text, because no cell but an
absent one and an empty one has an empty text (`Cell.isEmpty_eq_plainText`).

The limits are consumed where a distribution lists every text
(`mostFrequent_perm_of_length_le`).

Main result: `distribution_countsFilters`.
-/
import Mathlib.Algebra.BigOperators.Group.List.Lemmas
import TableQuery.Proofs.Summary.Reordering
import TableQuery.Rows.Selection

namespace TableQuery

open Text

/-! ### Tallies -/

section Tally

variable {texts : List String} {limit : Int}

/-- A tally is made of the distinct texts with the numbers of their
occurrences. -/
theorem tally_perm_dedup (texts : List String) :
    (tally texts).Perm (texts.dedup.map fun s => (s, texts.count s)) := by
  have hnodup : (texts.dedup.map fun s => (s, texts.count s)).Nodup :=
    texts.nodup_dedup.map fun s t h => congrArg Prod.fst h
  refine (List.perm_ext_iff_of_nodup (nodup_tally texts) hnodup).2 ?_
  rintro ⟨s, n⟩
  rw [mem_tally_iff, List.mem_map]
  constructor
  · rintro ⟨hs, rfl⟩
    exact ⟨s, List.mem_dedup.2 hs, rfl⟩
  · rintro ⟨s', hs, heq⟩
    obtain ⟨rfl, rfl⟩ := Prod.mk.inj heq
    exact ⟨List.mem_dedup.1 hs, rfl⟩

theorem length_tally (texts : List String) : (tally texts).length = texts.dedup.length := by
  rw [(tally_perm_dedup texts).length_eq, List.length_map]

/-- The counts of some of the texts add up to the number of their
occurrences. -/
theorem sum_count_tally (p : String → Bool) (texts : List String) :
    (((tally texts).filter fun entry => p entry.1).map (·.2)).sum = texts.countP p := by
  have hperm := ((tally_perm_dedup texts).filter fun entry => p entry.1).map (·.2)
  rw [hperm.sum_eq, List.filter_map, List.map_map]
  exact List.sum_map_count_dedup_filter_eq_countP p texts

/-- A limit that no tally exceeds leaves nothing out. -/
theorem mostFrequent_perm_of_length_le {counts : List (String × Nat)}
    (h : (counts.length : Int) ≤ limit) : (mostFrequent limit counts).Perm counts := by
  have hlength : (ranking counts).length ≤ limit.toNat := by
    rw [(ranking_perm counts).length_eq]
    omega
  rw [mostFrequent_eq, List.take_of_length_le hlength]
  exact ranking_perm counts

end Tally

/-! ### Distributions that list every text -/

/-- The limits let a column of these texts have a distribution that lists every
distinct one. -/
def Limits.ListAll (limits : Limits) (texts : List String) : Prop :=
  (texts.dedup.length : Int) ≤ limits.distinctTexts ∧
    (texts.dedup.length : Int) ≤ limits.listedTexts

/-- The count that a distribution lists for a text; of a text that is not
listed it is zero. -/
def listedCount (d : List Frequency) (text : String) : Nat :=
  ((d.find? (·.value = text)).map (·.count)).getD 0

/-- The texts of a column. -/
def columnTexts (rows : List PlacedRow) (column : String) : List String :=
  rows.map fun r => (r.row.cell column).plainText

variable {rows : List PlacedRow} {column : String} {limits : Limits}

/-- Under such limits a column has a distribution, made of its whole tally. -/
theorem exists_distribution (h : limits.ListAll (columnTexts rows column)) :
    ∃ (entries : List (String × Nat)) (total : Nat), entries.Perm (tally (columnTexts rows column)) ∧
      distribution? limits (rows.map (·.row)) column
        = some (entries.map (Frequency.among total)) := by
  obtain ⟨hdistinct, hlisted⟩ := h
  rw [← length_tally] at hdistinct hlisted
  refine ⟨_, (rows.map (·.row)).length, mostFrequent_perm_of_length_le hlisted, ?_⟩
  have htexts : (rows.map (·.row)).map (fun row => (row.cell column).plainText)
      = columnTexts rows column := List.map_map
  rw [distribution?, htexts]
  exact if_neg (not_lt.2 hdistinct)

section Listed

variable {texts : List String} {entries : List (String × Nat)} (total : Nat)

/-- The listed counts of some of the texts add up to the number of their
occurrences. -/
theorem sum_count_among (h : entries.Perm (tally texts)) (p : String → Bool) :
    (((entries.map (Frequency.among total)).filter fun f => p f.value).map (·.count)).sum
      = texts.countP p := by
  have hperm := (h.filter fun entry => p entry.1).map (·.2)
  rw [List.filter_map, List.map_map, ← sum_count_tally p texts, ← hperm.sum_eq]
  rfl

/-- The listed count of a text is the number of its occurrences. -/
theorem listedCount_among (h : entries.Perm (tally texts)) (s : String) :
    listedCount (entries.map (Frequency.among total)) s = texts.count s := by
  have hmem : ∀ n, (s, n) ∈ entries ↔ s ∈ texts ∧ n = texts.count s := by
    intro n
    rw [h.mem_iff, mem_tally_iff]
  rw [listedCount, List.find?_map, Option.map_map]
  rcases hfound : entries.find? ((fun f : Frequency => decide (f.value = s)) ∘
      Frequency.among total) with - | ⟨t, n⟩
  · -- no entry, so no occurrence
    have hnone : s ∉ texts := by
      intro hs
      have hnot := List.find?_eq_none.1 hfound _ ((hmem _).2 ⟨hs, rfl⟩)
      exact hnot (decide_eq_true rfl)
    rw [List.count_eq_zero_of_not_mem hnone]
    rfl
  · have htest := List.find?_some hfound
    obtain rfl : t = s := of_decide_eq_true htest
    exact ((hmem n).1 (List.mem_of_find?_eq_some hfound)).2

end Listed

/-! ### Filters as counts of texts -/

/-- A filter for a value keeps as many rows as there are texts equal to it in
lower case. -/
theorem length_apply_value (columns : List String) (rows : List PlacedRow)
    (column value : String) :
    (RowFilter.apply (some ⟨some column, some value⟩) columns rows).length
      = (columnTexts rows column).countP fun s => lowercase s = lowercase value := by
  rw [RowFilter.apply, ← List.countP_eq_length_filter, columnTexts, List.countP_map]
  rfl

/-- A filter without a value drops as many rows as there are empty texts. -/
theorem length_apply_filled (columns : List String) (rows : List PlacedRow) (column : String) :
    (RowFilter.apply (some ⟨some column, none⟩) columns rows).length
        + (columnTexts rows column).count ""
      = rows.length := by
  have hempty : (columnTexts rows column).count ""
      = rows.countP fun r => (r.row.cell column).isEmpty := by
    rw [List.count, columnTexts, List.countP_map]
    refine List.countP_congr fun r _ => ?_
    rw [Cell.isEmpty_eq_plainText, Function.comp_apply, beq_iff_eq, decide_eq_true_eq]
  have hkept : rows.countP (fun r => (⟨some column, none⟩ : RowFilter).keeps columns r.row)
      = rows.countP fun r => decide ¬ (r.row.cell column).isEmpty = true :=
    List.countP_congr fun r _ => by
      rw [RowFilter.keeps, Bool.not_eq_true', decide_eq_true_eq, Bool.not_eq_true]
  rw [hempty, RowFilter.apply, ← List.countP_eq_length_filter, hkept, Nat.add_comm]
  exact (List.length_eq_countP_add_countP fun r : PlacedRow => (r.row.cell column).isEmpty).symm

/-! ### The distribution of a summary -/

/-- The columns that have a distribution, with it, in the order of the columns. -/
theorem mem_distributions_iff {columns : List String} {rows : List Row}
    {entry : String × List Frequency} :
    entry ∈ columns.filterMap (fun column => (distribution? limits rows column).map (column, ·)) ↔
      entry.1 ∈ columns ∧ distribution? limits rows entry.1 = some entry.2 := by
  rw [List.mem_filterMap]
  constructor
  · rintro ⟨c, hc, hentry⟩
    obtain ⟨d, hd, rfl⟩ := Option.map_eq_some_iff.1 hentry
    exact ⟨hc, hd⟩
  · rintro ⟨hc, hd⟩
    exact ⟨entry.1, hc, by rw [hd, Option.map_some]⟩

/-- A summary is made of rows, if there are any and it is due. -/
theorem Summary.isMade_iff {requested : Bool} {rows : List Row} :
    ¬ (rows.isEmpty || !isDue limits rows.length requested) = true ↔
      rows ≠ [] ∧ isDue limits rows.length requested = true := by
  rw [Bool.or_eq_true, not_or, List.isEmpty_iff, Bool.not_eq_true', Bool.not_eq_false]

/-- A summary that is due holds the distributions of its columns. -/
theorem mem_categorical_iff {columns : List String} {requested : Bool} {rows : List Row}
    (hrows : rows ≠ []) (hdue : Summary.isDue limits rows.length requested)
    {entry : String × List Frequency} :
    entry ∈ (Summary.ofRows limits columns requested rows).categorical ↔
      entry.1 ∈ columns ∧ distribution? limits rows entry.1 = some entry.2 := by
  let entries := columns.filterMap fun column =>
    (distribution? limits rows column).map (column, ·)
  rw [Summary.ofRows, if_neg (Summary.isMade_iff.2 ⟨hrows, hdue⟩), ← mem_distributions_iff]
  show entry ∈ latestNamed entries ↔ entry ∈ entries
  apply mem_latestNamed_iff
  -- the rows and the column determine the distribution
  rintro ⟨c, d⟩ hd ⟨c', d'⟩ hd' hname
  obtain rfl : c = c' := hname
  have hsame := (mem_distributions_iff.1 hd).2.symm.trans (mem_distributions_iff.1 hd').2
  exact congrArg (c, ·) (Option.some.inj hsame)

/-- A summary that is due holds the distribution of each of its columns that
has one. -/
theorem getNamed?_categorical {columns : List String} {requested : Bool} {rows : List Row}
    (hrows : rows ≠ []) (hdue : Summary.isDue limits rows.length requested)
    (hcolumn : column ∈ columns) :
    getNamed? column (Summary.ofRows limits columns requested rows).categorical
      = distribution? limits rows column := by
  rcases hget : getNamed? column (Summary.ofRows limits columns requested rows).categorical
    with - | d
  · rcases hd : distribution? limits rows column with - | d
    · rfl
    · -- a distribution would have an entry
      have hentry : (column, d) ∈ (Summary.ofRows limits columns requested rows).categorical :=
        (mem_categorical_iff hrows hdue).2 ⟨hcolumn, hd⟩
      rw [getNamed?_eq_none_iff] at hget
      exact absurd (List.mem_map.2 ⟨_, hentry, rfl⟩) hget
  · exact ((mem_categorical_iff hrows hdue).1 (mem_of_getNamed? hget)).2.symm

/-! ### The agreement -/

/-- What filters on a column do to some rows, read off a distribution. -/
structure CountsFilters (d : List Frequency) (rows : List PlacedRow) (column : String) : Prop where
  /-- A filter for a value keeps as many rows as the listed texts count that are
  equal to the value in lower case. -/
  kept : ∀ columns value,
    (RowFilter.apply (some ⟨some column, some value⟩) columns rows).length
      = ((d.filter fun f => lowercase f.value = lowercase value).map (·.count)).sum
  /-- A filter without a value drops as many rows as the empty text counts. -/
  dropped : ∀ columns,
    (RowFilter.apply (some ⟨some column, none⟩) columns rows).length + listedCount d ""
      = rows.length

/-- **Filters agree with the distribution.**  Under limits that let a column's
distribution list every text, the column has a distribution, every summary of
these rows that is due holds it, and the rows that filters on the column keep
and drop can be read off its counts. -/
theorem distribution_countsFilters (hrows : rows ≠ [])
    (hlimits : limits.ListAll (columnTexts rows column)) :
    ∃ d, distribution? limits (rows.map (·.row)) column = some d ∧ CountsFilters d rows column ∧
      ∀ columns requested, column ∈ columns → Summary.isDue limits rows.length requested →
        getNamed? column
          (Summary.ofRows limits columns requested (rows.map (·.row))).categorical = some d := by
  obtain ⟨entries, total, hentries, hd⟩ := exists_distribution hlimits
  refine ⟨_, hd, ⟨fun columns value => ?_, fun columns => ?_⟩, ?_⟩
  · rw [length_apply_value]
    exact (sum_count_among total hentries fun s => lowercase s = lowercase value).symm
  · rw [listedCount_among total hentries]
    exact length_apply_filled columns rows column
  · intro columns requested hcolumn hdue
    have hsome : rows.map (·.row) ≠ [] := mt List.map_eq_nil_iff.1 hrows
    rw [← List.length_map (·.row)] at hdue
    exact (getNamed?_categorical hsome hdue hcolumn).trans hd

/-- Spellings of one answer, an empty text and a row without an answer. -/
def answers : List PlacedRow :=
  [⟨0, [("done", .text "Yes")]⟩, ⟨1, [("done", .text "YES")]⟩, ⟨2, [("done", .text "no")]⟩,
    ⟨3, [("done", .text "")]⟩, ⟨4, []⟩, ⟨5, [("done", .text "yes")]⟩]

theorem distribution_countsFilters_answers :
    answers ≠ [] ∧ ({ listedTexts := 5 } : Limits).ListAll (columnTexts answers "done") ∧
      ∃ d, distribution? { listedTexts := 5 } (answers.map (·.row)) "done" = some d ∧
        CountsFilters d answers "done" ∧
        ∀ columns requested, "done" ∈ columns →
          Summary.isDue { listedTexts := 5 } answers.length requested →
          getNamed? "done" (Summary.ofRows { listedTexts := 5 } columns requested
            (answers.map (·.row))).categorical = some d := by
  have hrows : answers ≠ [] := by decide
  have hlimits : ({ listedTexts := 5 } : Limits).ListAll (columnTexts answers "done") := by
    refine ⟨?_, ?_⟩ <;> decide +kernel
  exact ⟨hrows, hlimits, distribution_countsFilters hrows hlimits⟩

end TableQuery
