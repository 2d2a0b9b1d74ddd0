/-
TableQuery/Proofs/Summary/Checked.lean

Summaries with every step checked.

Some steps of a summary have no result on some arguments: a whole number can
lie past the largest binary64 number or have too many digits to be written, an
infinity has no whole part, nothing can be divided by zero, and there is no
least or greatest of no numbers.  Definitions that give every argument a value
hide these cases.  Here each such step says so, and a summary is worked out
from the steps, which stop at the first fault (`Checked.summary`).

None of the faults occurs, for any rows, columns and limits.  The cells are in
range, only whole values are asked for their whole part, a column without
numbers has no statistics, and rows are counted only if there are some.  So the
checked summary always has a result, and it is `Summary.ofRows`.

Main result: `Checked.summary_eq`.
-/
import Mathlib.Data.List.ReduceOption
import TableQuery.Proofs.Summary.Listing

namespace TableQuery

/-- Why a step has no result. -/
inductive Fault where
  /-- A number is too large to be held. -/
  | overflow (reason : NumberOverflow)
  /-- A whole number is too long to be written. -/
  | digits
  /-- A number has no whole part. -/
  | noWholePart
  /-- The divisor is zero. -/
  | zeroDivisor
  /-- There are no numbers to take the least or the greatest of. -/
  | noNumbers
  deriving DecidableEq

namespace Checked

/-- What a step gives, if it gives anything. -/
abbrev Result := Except Fault

/-! ### Steps on lists -/

section Lists

variable {α β : Type} {xs : List α}

@[simp] theorem ok_bind (a : α) (next : α → Result β) :
    (Except.ok a : Result α) >>= next = next a := rfl

theorem mapM_ok {step : α → Result β} {f : α → β} (h : ∀ x ∈ xs, step x = .ok (f x)) :
    xs.mapM step = .ok (xs.map f) := by
  induction xs with
  | nil => rfl
  | cons x xs ih =>
    rw [List.forall_mem_cons] at h
    rw [List.mapM_cons, h.1, ih h.2]
    rfl

theorem anyM_ok {step : α → Result Bool} {p : α → Bool} (h : ∀ x, step x = .ok (p x)) :
    xs.anyM step = .ok (xs.any p) := by
  rw [funext h]
  exact List.anyM_pure

theorem filterM_ok {step : α → Result Bool} {p : α → Bool} (h : ∀ x, step x = .ok (p x)) :
    xs.filterM step = .ok (xs.filter p) := by
  -- the loop has what it keeps in reverse, the last element first
  have hloop : ∀ kept, xs.filterAuxM step kept = .ok ((xs.filter p).reverse ++ kept) := by
    induction xs with
    | nil => exact fun kept => rfl
    | cons x xs ih =>
      intro kept
      rw [List.filterAuxM, h, ok_bind, ih, List.filter_cons]
      cases p x with
      | false => rfl
      | true => simp
  rw [List.filterM, hloop, ok_bind, List.append_nil, List.reverse_reverse]
  rfl

/-- Results that may be missing are found one by one, and the missing ones left
out. -/
def filterMapM (step : α → Result (Option β)) (xs : List α) : Result (List β) := do
  return (← xs.mapM step).reduceOption

theorem filterMapM_ok {step : α → Result (Option β)} {f : α → Option β}
    (h : ∀ x, step x = .ok (f x)) : filterMapM step xs = .ok (xs.filterMap f) := by
  rw [filterMapM, mapM_ok fun x _ => h x, ok_bind, List.reduceOption, List.filterMap_map]
  rfl

end Lists

/-! ### Numbers -/

/-- The binary64 number nearest to a whole number. -/
def nearest (n : Int) : Result Binary64 := (realOfInt n).mapError .overflow

/-- A whole number in digits, as a host writes it that keeps to the limit. -/
def digits (n : Int) : Result String :=
  if n.natAbs < Nat.pow 10 digitLimit then .ok (integerText n) else .error .digits

/-- The whole part of a number. -/
def wholePart (x : Binary64) : Result Int :=
  match x.truncate? with
  | none => .error .noWholePart
  | some n => .ok n

/-- A binary64 number in its shortest form. -/
def brief (x : Binary64) : Result String :=
  if x.isWhole then wholePart x >>= digits else .ok x.plain

/-- The least of some numbers. -/
def least : List Binary64 → Result Binary64
  | [] => .error .noNumbers
  | x :: xs => .ok (leastOf x xs)

/-- The greatest of some numbers. -/
def greatest : List Binary64 → Result Binary64
  | [] => .error .noNumbers
  | x :: xs => .ok (greatestOf x xs)

/-- A total by a count. -/
def average (total : Binary64) (count : Nat) : Result Binary64 :=
  if count = 0 then .error .zeroDivisor else .ok (total.divCount count)

/-- A count in percent of a total. -/
def percentage (count total : Nat) : Result Binary64 :=
  if total = 0 then .error .zeroDivisor
  else (realOfRatio (100 * count) total).mapError .overflow

theorem nearest_eq {n : Int} (h : n.natAbs < integerBound) : nearest n = .ok (.ofInt n) := by
  rw [nearest, realOfInt, if_pos h]
  rfl

theorem digits_eq {n : Int} (h : n.natAbs < Nat.pow 10 digitLimit) :
    digits n = .ok (integerText n) :=
  if_pos h

/-- The whole numbers of cells are short enough to be written. -/
theorem integerBound_le_digits : integerBound ≤ Nat.pow 10 digitLimit := by decide +kernel

/-- So are the whole parts of binary64 numbers. -/
theorem unitsBound_le_digits :
    Binary64.unitsBound ≤ Nat.pow 10 digitLimit * Binary64.unitsPerOne := by decide +kernel

theorem wholePart_finite {negative : Bool} {units : Nat} (h : Binary64.Representable units) :
    wholePart (.finite negative units h)
      = .ok (Binary64.signed negative (units / Binary64.unitsPerOne)) := rfl

/-- Only finite values are whole, and their whole parts can be written. -/
theorem brief_eq (x : Binary64) : brief x = .ok x.brief := by
  cases x with
  | nan => rfl
  | infinite negative => rfl
  | finite negative units hunits =>
    have hpart : units / Binary64.unitsPerOne < Nat.pow 10 digitLimit := by
      rw [Nat.div_lt_iff_lt_mul Binary64.unitsPerOne_pos]
      exact Nat.lt_of_lt_of_le hunits.1 unitsBound_le_digits
    rw [← Binary64.natAbs_signed negative (units / _)] at hpart
    rw [brief, Binary64.brief]
    split
    · next hwhole =>
      rw [hwhole, wholePart_finite, ok_bind, digits_eq hpart]
      rfl
    · next hwhole =>
      rw [Bool.not_eq_true] at hwhole
      rw [hwhole]

theorem average_eq {count : Nat} (h : 1 ≤ count) (total : Binary64) :
    average total count = .ok (total.divCount count) :=
  if_neg (Nat.ne_of_gt h)

/-- No count is more than a hundred percent of its total. -/
theorem percentage_eq {count total : Nat} (htotal : 1 ≤ total) (hcount : count ≤ total) :
    percentage count total = .ok (.ofQuotient false (100 * count) total) := by
  -- rounding is monotone, and the whole itself is a hundred exactly
  have hround : Binary64.roundUnits (100 * count * Binary64.unitsPerOne) total
      < Binary64.unitsBound :=
    calc Binary64.roundUnits (100 * count * Binary64.unitsPerOne) total
      _ ≤ Binary64.roundUnits (100 * total * Binary64.unitsPerOne) total :=
        Binary64.roundUnits_mono total (Nat.mul_le_mul_right _ (Nat.mul_le_mul_left 100 hcount))
      _ = Binary64.roundUnits (100 * Binary64.unitsPerOne) 1 :=
        Binary64.roundUnits_congr htotal Nat.one_pos (by ring)
      _ < Binary64.unitsBound := Binary64.roundUnits_lt_unitsBound (by decide +kernel)
  have hfinite : (Binary64.ofQuotient false (100 * count) total).isFinite = true := by
    rw [Binary64.ofQuotient, Binary64.ofUnits, dif_pos hround]
    rfl
  have hratio : realOfRatio (100 * count) total
      = .ok (.ofQuotient false (100 * count) total) := by
    have hsign : decide ((100 * (count : Int)) < 0) = false := decide_eq_false (by omega)
    have habs : (100 * (count : Int)).natAbs = 100 * count := by omega
    rw [realOfRatio, hsign, habs]
    exact if_pos hfinite
  rw [percentage, if_neg (Nat.ne_of_gt htotal), hratio]
  rfl

/-! ### Cells -/

/-- The number of a cell. -/
def number? : Cell → Result (Option Binary64)
  | .number (.whole n _) => some <$> nearest n
  | .number (.real x _) => .ok (some x)
  | .text s => .ok (readNumber? s)
  | .boolean _ | .absent => .ok none

/-- The text of a cell. -/
def plainText : Cell → Result String
  | .text s => .ok s
  | .number (.whole n _) => digits n
  | .number (.real x _) => brief x
  | .boolean b => .ok (if b then "true" else "false")
  | .absent => .ok ""

/-- Every whole number that a cell can hold has a nearest binary64 number. -/
theorem number?_eq (c : Cell) : number? c = .ok c.number? := by
  rcases c with s | (⟨n, hn⟩ | ⟨x, hx⟩) | b | -
  · rfl
  · rw [number?, nearest_eq hn]
    rfl
  · rfl
  · rfl
  · rfl

theorem plainText_eq (c : Cell) : plainText c = .ok c.plainText := by
  rcases c with s | (⟨n, hn⟩ | ⟨x, hx⟩) | b | -
  · rfl
  · exact digits_eq (Nat.lt_of_lt_of_le hn integerBound_le_digits)
  · exact brief_eq x
  · rfl
  · rfl

/-! ### Columns -/

/-- The numbers in a column. -/
def numbers (rows : List Row) (column : String) : Result (List Binary64) :=
  filterMapM (fun row => number? (row.cell column)) rows

/-- The texts in a column. -/
def texts (rows : List Row) (column : String) : Result (List String) :=
  rows.mapM fun row => plainText (row.cell column)

/-- The statistics of a column, if it has a number. -/
def columnStats? (rows : List Row) (column : String) : Result (Option ColumnStats) := do
  let numbers ← numbers rows column
  if numbers.isEmpty then return none
  let minimum ← least numbers
  let maximum ← greatest numbers
  return some ⟨column, numbers.length, minimum, maximum, totalOf numbers⟩

/-- The line of a column's statistics. -/
def statsLine (s : ColumnStats) : Result String := do
  let mean ← average s.total s.count
  return s.column ++ ": Min=" ++ s.minimum.fixed 2 ++ ", Max=" ++ s.maximum.fixed 2 ++
    ", Avg=" ++ mean.fixed 2

/-- The frequency of a counted text among so many rows. -/
def frequency (total : Nat) (entry : String × Nat) : Result Frequency := do
  return ⟨entry.1, entry.2, ← percentage entry.2 total⟩

/-- The distribution of a column, unless it has too many distinct texts. -/
def distribution? (limits : Limits) (rows : List Row) (column : String) :
    Result (Option (List Frequency)) := do
  let counts := tally (← texts rows column)
  if limits.distinctTexts < counts.length then return none
  return some (← (mostFrequent limits.listedTexts counts).mapM (frequency rows.length))

section Columns

variable (rows : List Row) (column : String)

theorem numbers_eq : numbers rows column = .ok (columnNumbers rows column) :=
  filterMapM_ok fun row => number?_eq (row.cell column)

theorem texts_eq : texts rows column = .ok (textsOf rows column) :=
  mapM_ok fun row _ => plainText_eq (row.cell column)

/-- The least and the greatest are asked for only where there is a number. -/
theorem columnStats?_eq : columnStats? rows column = .ok (TableQuery.columnStats? rows column) := by
  rw [columnStats?, numbers_eq, ok_bind, TableQuery.columnStats?]
  cases columnNumbers rows column with
  | nil => rfl
  | cons x xs => rfl

/-- There is something to divide by wherever there are statistics. -/
theorem statsLine_eq {s : ColumnStats} (h : TableQuery.columnStats? rows column = some s) :
    statsLine s = .ok s.line := by
  rw [statsLine, average_eq (columnStats?_describes h).count_pos]
  rfl

/-- A text that occurs has a share of the rows, of which there is at least one. -/
theorem percentage_count {text : String} (h : text ∈ textsOf rows column) :
    1 ≤ rows.length ∧ percentage ((textsOf rows column).count text) rows.length
      = .ok (.ofQuotient false (100 * (textsOf rows column).count text) rows.length) := by
  rw [← length_textsOf rows column]
  have hrows : 1 ≤ (textsOf rows column).length := List.length_pos_of_mem h
  exact ⟨hrows, percentage_eq hrows List.count_le_length⟩

theorem frequency_eq {entry : String × Nat} {limit : Int}
    (h : entry ∈ mostFrequent limit (tally (textsOf rows column))) :
    frequency rows.length entry = .ok (Frequency.among rows.length entry) := by
  obtain ⟨htext, hcount⟩ := mem_ranking_tally (List.mem_of_mem_take h)
  rw [frequency, Frequency.among, hcount, (percentage_count rows column htext).2]
  rfl

theorem distribution?_eq (limits : Limits) :
    distribution? limits rows column = .ok (TableQuery.distribution? limits rows column) := by
  rw [distribution?, texts_eq, ok_bind, TableQuery.distribution?]
  show (if limits.distinctTexts < (tally (textsOf rows column)).length then _ else _) = _
  split
  · next hmany => exact congrArg Except.ok (if_pos hmany).symm
  · next hfew =>
    rw [mapM_ok fun entry h => frequency_eq rows column h]
    exact congrArg Except.ok (if_neg hfew).symm

end Columns

/-! ### Summaries -/

/-- The summary of some rows. -/
def summary (limits : Limits) (columns : List String) (requested : Bool) (rows : List Row) :
    Result Summary := do
  if rows.isEmpty || !Summary.isDue limits rows.length requested then
    return .silent rows.length
  let numeric ← filterMapM (columnStats? rows) columns
  let numericLines ← numeric.mapM statsLine
  let distributions ← filterMapM (fun column => do
    return (← distribution? limits rows column).map (column, ·)) columns
  return {
    totalRows := rows.length
    numeric
    categorical := distributions.foldl (fun all (column, d) => setNamed column d all) []
    lines := ("Total rows: " ++ integerText rows.length) :: numericLines ++
      distributions.map fun (column, d) => distributionLine column d }

/-- **No step of a summary is without a result.** -/
theorem summary_eq (limits : Limits) (columns : List String) (requested : Bool)
    (rows : List Row) :
    summary limits columns requested rows
      = .ok (Summary.ofRows limits columns requested rows) := by
  rw [summary, Summary.ofRows]
  split
  · rfl
  · -- only statistics that were found get a line, so each has a count
    have hnumeric : filterMapM (columnStats? rows) columns
        = .ok (columns.filterMap (TableQuery.columnStats? rows)) :=
      filterMapM_ok (columnStats?_eq rows)
    have hlines : (columns.filterMap (TableQuery.columnStats? rows)).mapM statsLine
        = .ok ((columns.filterMap (TableQuery.columnStats? rows)).map (·.line)) := by
      refine mapM_ok fun stats hstats => ?_
      obtain ⟨column, -, hcolumn⟩ := List.mem_filterMap.1 hstats
      exact statsLine_eq rows column hcolumn
    have hdistributions : filterMapM (fun column => do
          return (← distribution? limits rows column).map (column, ·)) columns
        = .ok (columns.filterMap fun column =>
            (TableQuery.distribution? limits rows column).map (column, ·)) := by
      refine filterMapM_ok fun column => ?_
      rw [distribution?_eq]
      rfl
    rw [hnumeric, ok_bind, hlines, ok_bind, hdistributions, ok_bind]
    rfl

end Checked

end TableQuery
