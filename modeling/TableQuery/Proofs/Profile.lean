/-
TableQuery/Proofs/Profile.lean

The sample of an overview.

A sample is put together from the front and the back of the rows, or it is all
rows where the two would meet.  Which positions that makes can be said without
a front and a back: those that are near one of the two ends (`NearEnd`).  So
nothing is there twice, whatever the size.

There are three cases of a sample (`Sampled`), and only where the ends are apart is
there something to show (`ends_range`).  Sampling takes no notice of what is sampled (`map_sampleOf`), so it is enough to
sample the positions themselves (`sampleOf_range`).

Main result: `Profile.sample_ofTable`.
-/
import TableQuery.Profile
import TableQuery.Proofs.Answer.Reading

namespace TableQuery.Profile

/-- A position among `n` is less than this far from the first or from the last. -/
def NearEnd (size : Int) (n i : Nat) : Prop := (i : Int) < size ∨ (n : Int) - size ≤ i

instance (size : Int) (n i : Nat) : Decidable (NearEnd size n i) :=
  inferInstanceAs (Decidable (_ ∨ _))

section Sample

variable {α β : Type} {size : Int} {n : Nat}

/-- All that a sample can be: nothing for a size that is not positive, all rows if
the ends would meet, and otherwise the two ends. -/
inductive Sampled (size : Int) (rows : List α) : List α → Prop
  | nothing : size ≤ 0 → Sampled size rows []
  | whole : 0 < size → rows.length ≤ 2 * size → Sampled size rows rows
  | ends {k : Nat} : size = k → 2 * k < rows.length →
      Sampled size rows (rows.take k ++ rows.drop (rows.length - k))

theorem sampled_sampleOf (size : Int) (rows : List α) :
    Sampled size rows (sampleOf size rows) := by
  rw [sampleOf]
  split
  · next hnone => exact .nothing hnone
  · next hsome =>
    split
    · next hmeet => exact .whole (Int.not_le.1 hsome) hmeet
    · next hapart => exact .ends (Int.toNat_of_nonneg (by omega)).symm (by omega)

theorem map_sampleOf (f : α → β) (rows : List α) :
    (sampleOf size rows).map f = sampleOf size (rows.map f) := by
  rw [sampleOf, sampleOf, List.length_map]
  split
  · rfl
  · split
    · rfl
    · rw [List.map_append, List.map_take, List.map_drop]

theorem length_sampleOf (rows : List α) :
    (sampleOf size rows).length = min rows.length (2 * size.toNat) := by
  have hsampled := sampled_sampleOf size rows
  generalize sampleOf size rows = sample at hsampled ⊢
  cases hsampled with
  | nothing hnone =>
    rw [List.length_nil]
    omega
  | whole hsome hmeet => omega
  | ends hsize hapart =>
    rw [List.length_append, List.length_take, List.length_drop]
    omega

theorem mem_of_mem_sampleOf {rows : List α} {x : α} (h : x ∈ sampleOf size rows) : x ∈ rows := by
  have hsampled := sampled_sampleOf size rows
  generalize sampleOf size rows = sample at hsampled h
  cases hsampled with
  | nothing _ => cases h
  | whole _ _ => exact h
  | ends _ _ =>
    rcases List.mem_append.1 h with hfront | hback
    · exact List.mem_of_mem_take hfront
    · exact List.mem_of_mem_drop hback

/-- Where the ends are apart, a range is its front, what is near neither end, and
its back. -/
theorem range_eq_append {k : Nat} (h : 2 * k ≤ n) :
    List.range n = List.range' 0 k ++ (List.range' k (n - 2 * k) ++ List.range' (n - k) k) := by
  have hlast : List.range' k (n - 2 * k) ++ List.range' (n - k) k = List.range' k (n - k) := by
    have happend : List.range' k (n - 2 * k) ++ List.range' (k + (n - 2 * k)) k
        = List.range' k (n - 2 * k + k) := List.range'_append_1
    rwa [show k + (n - 2 * k) = n - k by omega, show n - 2 * k + k = n - k by omega] at happend
  have hwhole : List.range' 0 k ++ List.range' k (n - k) = List.range' 0 n := by
    have happend : List.range' 0 k ++ List.range' (0 + k) (n - k) = List.range' 0 (k + (n - k)) :=
      List.range'_append_1
    rwa [Nat.zero_add, show k + (n - k) = n by omega] at happend
  rw [hlast, hwhole, List.range_eq_range']

/-- Where the ends are apart, the positions near one of them are the front and the
back of the range. -/
theorem ends_range {k : Nat} (hsize : size = k) (h : 2 * k ≤ n) :
    (List.range n).take k ++ (List.range n).drop (n - k)
      = (List.range n).filter (fun i => NearEnd size n i) := by
  -- the positions in front, between and behind: the filter keeps the two ends as they are
  have hsplit := range_eq_append h
  have hfront : (List.range' 0 k).filter (fun i => NearEnd size n i) = List.range' 0 k := by
    refine List.filter_eq_self.2 fun i hi => decide_eq_true (.inl ?_)
    rw [List.mem_range'_1] at hi
    omega
  have hmiddle : (List.range' k (n - 2 * k)).filter (fun i => NearEnd size n i) = [] := by
    refine List.filter_eq_nil_iff.2 fun i hi => ?_
    rw [List.mem_range'_1] at hi
    rw [decide_eq_true_eq, NearEnd]
    omega
  have hback : (List.range' (n - k) k).filter (fun i => NearEnd size n i)
      = List.range' (n - k) k := by
    refine List.filter_eq_self.2 fun i hi => decide_eq_true (.inr ?_)
    rw [List.mem_range'_1] at hi
    omega
  calc (List.range n).take k ++ (List.range n).drop (n - k)
    _ = List.range' 0 k ++ List.range' (n - k) k := by
      rw [hsplit]
      congr 1
      · exact List.take_left' List.length_range'
      · rw [← List.append_assoc]
        refine List.drop_left' ?_
        rw [List.length_append, List.length_range', List.length_range']
        omega
    _ = (List.range n).filter (fun i => NearEnd size n i) := by
      rw [hsplit, List.filter_append, List.filter_append, hfront, hmiddle, hback,
        List.nil_append]

/-- **The sampled positions** are those near an end. -/
theorem sampleOf_range (size : Int) (n : Nat) :
    sampleOf size (List.range n) = (List.range n).filter (fun i => NearEnd size n i) := by
  have hsampled := sampled_sampleOf size (List.range n)
  generalize sampleOf size (List.range n) = sample at hsampled ⊢
  cases hsampled with
  | nothing hnone =>
    refine (List.filter_eq_nil_iff.2 fun i hi => ?_).symm
    rw [List.mem_range] at hi
    rw [decide_eq_true_eq, NearEnd]
    omega
  | whole hsome hmeet =>
    refine (List.filter_eq_self.2 fun i hi => decide_eq_true ?_).symm
    rw [List.mem_range] at hi
    rw [List.length_range] at hmeet
    rw [NearEnd]
    omega
  | ends hsize hapart =>
    rw [List.length_range] at hapart ⊢
    exact ends_range hsize (Nat.le_of_lt hapart)

end Sample

/-- The rows at some positions, found again by their positions. -/
theorem map_row_eq_filterMap {t : Table} {placed : List PlacedRow}
    (h : ∀ r ∈ placed, t.rows[r.position]? = some r.row) :
    placed.map (·.row) = (placed.map (·.position)).filterMap fun i => t.rows[i]? := by
  rw [List.filterMap_map, ← List.filterMap_eq_map]
  exact List.filterMap_congr fun r hr => (h r hr).symm

/-- **A sample covers both ends without repeats.**  The sample of an overview holds
the rows at exactly the positions that are near an end of the table, each once
and in increasing order; it has twice its size of rows, or all rows of the table
if there are fewer, and a size that is not positive gives an empty sample. -/
theorem sample_ofTable (t : Table) (size : Int) :
    (ofTable t size).sample.map (·.position)
        = (List.range t.rows.length).filter (fun i => NearEnd size t.rows.length i) ∧
      ((ofTable t size).sample.map (·.position)).Pairwise (· < ·) ∧
      (ofTable t size).sample.map (·.row)
        = ((List.range t.rows.length).filter fun i => NearEnd size t.rows.length i).filterMap
          (fun i => t.rows[i]?) ∧
      ((ofTable t size).sample.length : Int) = min (t.rows.length : Int) (2 * max size 0) ∧
      ((ofTable t size).sample = [] ↔ t.rows = [] ∨ size ≤ 0) := by
  -- positions first; the rows follow from them, and the rest is counting
  have hpositions : (ofTable t size).sample.map (·.position)
      = (List.range t.rows.length).filter (fun i => NearEnd size t.rows.length i) := by
    rw [← sampleOf_range, ← t.map_position_placedRows, ← map_sampleOf]
    rfl
  have hplaced : ∀ r ∈ (ofTable t size).sample, t.rows[r.position]? = some r.row :=
    fun r hr => Table.mem_placedRows.1 (mem_of_mem_sampleOf hr)
  have hlength : (ofTable t size).sample.length = min t.rows.length (2 * size.toNat) := by
    rw [← t.map_row_placedRows, List.length_map]
    exact length_sampleOf t.placedRows
  refine ⟨hpositions, ?_, ?_, ?_, ?_⟩
  · rw [hpositions]
    exact List.pairwise_lt_range.filter _
  · rw [map_row_eq_filterMap hplaced, hpositions]
  · rw [hlength]
    omega
  · rw [← List.length_eq_zero_iff, ← List.length_eq_zero_iff, hlength]
    omega

/-- The ends of three rows meet, and those of five leave one row out. -/
example : sampleOf 2 [0, 1, 2] = [0, 1, 2] ∧ sampleOf 2 [0, 1, 2, 3, 4] = [0, 1, 3, 4] := by
  decide

end TableQuery.Profile
