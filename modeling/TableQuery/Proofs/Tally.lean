/-
TableQuery/Proofs/Tally.lean

Counting texts, and listing the most frequent of them.

A tally is built text by text, and the order of the texts shows in the order
of its entries.  What it says does not depend on that order: its names are the
texts, each once, and each stands with the number of its occurrences
(`mem_tally_iff`).  So a reordered list of texts has a reordered tally
(`tally_perm`).

A list of the most frequent texts is a part of the tally sorted by counts.
Which of two equally frequent texts comes first depends on the order of the
texts, and with the cut after so many entries also which of them is listed.
The listed counts do not (`map_count_mostFrequent`), and a text that is listed
for one order only is as frequent as the last one listed
(`count_of_listed_once`).
-/
import Mathlib.Data.List.Sort
import TableQuery.Proofs.Named
import TableQuery.Proofs.Rows.Stability
import TableQuery.Summary

namespace TableQuery

/-! ### Counting -/

section Counting

variable {texts texts' : List String} {t s : String} {n : Nat}

theorem tally_concat (texts : List String) (t : String) :
    tally (texts ++ [t]) = setNamed t ((getNamed? t (tally texts)).getD 0 + 1) (tally texts) := by
  rw [tally, List.foldl_append]
  rfl

/-- Each text is counted in one place. -/
theorem nodup_namesOf_tally (texts : List String) : (namesOf (tally texts)).Nodup := by
  induction texts using List.reverseRecOn with
  | nil => exact List.nodup_nil
  | append_singleton texts t ih =>
    rw [tally_concat]
    exact nodup_namesOf_setNamed ih

theorem mem_namesOf_tally : s ∈ namesOf (tally texts) ↔ s ∈ texts := by
  induction texts using List.reverseRecOn with
  | nil => exact Iff.rfl
  | append_singleton texts t ih =>
    rw [tally_concat, mem_namesOf_setNamed, ih, List.mem_append, List.mem_singleton, or_comm]

/-- The number at a text is the number of its occurrences. -/
theorem getD_getNamed?_tally (texts : List String) (s : String) :
    (getNamed? s (tally texts)).getD 0 = texts.count s := by
  induction texts using List.reverseRecOn with
  | nil => rfl
  | append_singleton texts t ih =>
    rw [tally_concat, List.count_append]
    by_cases h : s = t
    · subst h
      rw [getNamed?_setNamed_self, Option.getD_some, ih, List.count_singleton_self]
    · have hzero : [t].count s = 0 :=
        List.count_eq_zero_of_not_mem fun hmem => h (List.mem_singleton.1 hmem)
      rw [getNamed?_setNamed_of_ne h, ih, hzero, Nat.add_zero]

/-- **A tally holds each text with the number of its occurrences**, and nothing
else. -/
theorem mem_tally_iff : (s, n) ∈ tally texts ↔ s ∈ texts ∧ n = texts.count s := by
  have hcount : ∀ m, (s, m) ∈ tally texts → m = texts.count s := by
    intro m hm
    have hvalue := getNamed?_of_mem (nodup_namesOf_tally texts) hm
    rw [← getD_getNamed?_tally, hvalue, Option.getD_some]
  constructor
  · intro h
    have hname : s ∈ namesOf (tally texts) := List.mem_map_of_mem h
    exact ⟨mem_namesOf_tally.1 hname, hcount n h⟩
  · rintro ⟨hs, rfl⟩
    obtain ⟨⟨u, m⟩, hm, rfl⟩ := List.mem_map.1 (mem_namesOf_tally.2 hs)
    rwa [← hcount m hm]

theorem nodup_tally (texts : List String) : (tally texts).Nodup :=
  List.Nodup.of_map Prod.fst (nodup_namesOf_tally texts)

/-- The entries of a tally stand in the order in which their texts first
appear. -/
theorem pairwise_idxOf_tally (texts : List String) :
    (namesOf (tally texts)).Pairwise fun s t => texts.idxOf s < texts.idxOf t := by
  induction texts using List.reverseRecOn with
  | nil => exact .nil
  | append_singleton texts t ih =>
    -- induction from the end: a further text does not move the first places of earlier ones
    have hearlier : ∀ s ∈ namesOf (tally texts), (texts ++ [t]).idxOf s = texts.idxOf s :=
      fun s hs => List.idxOf_append_of_mem (mem_namesOf_tally.1 hs)
    have hkept : (namesOf (tally texts)).Pairwise fun r s =>
        (texts ++ [t]).idxOf r < (texts ++ [t]).idxOf s := by
      refine ih.imp_of_mem fun hr hs hrs => ?_
      rwa [hearlier _ hr, hearlier _ hs]
    rw [tally_concat]
    by_cases ht : t ∈ namesOf (tally texts)
    · rwa [namesOf_setNamed_of_mem ht]
    · -- a text that is new goes to the end
      rw [namesOf_setNamed_of_not_mem ht]
      refine List.pairwise_append.2 ⟨hkept, List.pairwise_singleton _ _, fun s hs r hr => ?_⟩
      have hnew : t ∉ texts := mt mem_namesOf_tally.2 ht
      rw [List.mem_singleton.1 hr, hearlier s hs, List.idxOf_append_of_notMem hnew]
      exact Nat.lt_add_right _ (List.idxOf_lt_length_iff.2 (mem_namesOf_tally.1 hs))

/-- **Reordered texts have a reordered tally.** -/
theorem tally_perm (h : texts.Perm texts') : (tally texts).Perm (tally texts') := by
  refine (List.perm_ext_iff_of_nodup (nodup_tally texts) (nodup_tally texts')).2 ?_
  rintro ⟨s, n⟩
  rw [mem_tally_iff, mem_tally_iff, h.mem_iff, h.count_eq]

end Counting

/-! ### The most frequent texts -/

section Frequent

variable {counts counts' : List (String × Nat)} {limit : Int} {entry : String × Nat}

/-- The entries of a tally, the most frequent texts first. -/
def ranking (counts : List (String × Nat)) : List (String × Nat) :=
  arrange (fun a b => b.2 < a.2) counts

theorem mostFrequent_eq (limit : Int) (counts : List (String × Nat)) :
    mostFrequent limit counts = (ranking counts).take limit.toNat := rfl

theorem ranking_perm (counts : List (String × Nat)) : (ranking counts).Perm counts :=
  arrange_perm _ counts

theorem consistent_moreFrequent :
    Consistent fun a b : String × Nat => decide (b.2 < a.2) where
  oneWay a b h := by
    rw [decide_eq_true_eq] at h
    rw [decide_eq_false_iff_not]
    omega
  trans a b c hba hcb := by
    rw [decide_eq_false_iff_not] at hba hcb ⊢
    omega

/-- No text is more frequent than one that is ranked in front of it. -/
theorem pairwise_ranking (counts : List (String × Nat)) :
    (ranking counts).Pairwise fun a b => b.2 ≤ a.2 := by
  refine (pairwise_arrange consistent_moreFrequent counts).imp ?_
  intro a b h
  rw [decide_eq_false_iff_not] at h
  omega

/-- Of two equally frequent texts the one that is counted first is ranked
first. -/
theorem pair_sublist_of_ranking {a b : String × Nat} (hcount : a.2 = b.2)
    (h : [a, b].Sublist (ranking counts)) : [a, b].Sublist counts := by
  have hranked := consistent_moreFrequent.stablyArranged_arrange counts
  have hlevel : level (fun a b : String × Nat => decide (b.2 < a.2)) a b = true := by
    rw [level_iff, decide_eq_false_iff_not, decide_eq_false_iff_not]
    omega
  exact (hranked.pair_sublist_iff consistent_moreFrequent.oneWay hlevel).1 h

/-- The counts of a ranking do not depend on the order of the entries. -/
theorem map_count_ranking (h : counts.Perm counts') :
    (ranking counts).map (·.2) = (ranking counts').map (·.2) := by
  have hperm : ((ranking counts).map (·.2)).Perm ((ranking counts').map (·.2)) :=
    (((ranking_perm counts).trans h).trans (ranking_perm counts').symm).map _
  have hsorted : ((ranking counts).map (·.2)).Pairwise (· ≥ ·) :=
    List.pairwise_map.2 (pairwise_ranking counts)
  have hsorted' : ((ranking counts').map (·.2)).Pairwise (· ≥ ·) :=
    List.pairwise_map.2 (pairwise_ranking counts')
  refine List.Perm.eq_of_pairwise ?_ hsorted hsorted' hperm
  intro m n _ _ hmn hnm
  exact Nat.le_antisymm hnm hmn

/-- **The listed counts do not depend on the order of the entries.** -/
theorem map_count_mostFrequent (h : counts.Perm counts') (limit : Int) :
    (mostFrequent limit counts).map (·.2) = (mostFrequent limit counts').map (·.2) := by
  rw [mostFrequent_eq, mostFrequent_eq, List.map_take, List.map_take, map_count_ranking h]

/-- A listed text is at least as frequent as the last one that is listed. -/
theorem count_last_le (hentry : entry ∈ mostFrequent limit counts) {last : String × Nat}
    (hlast : last ∈ (mostFrequent limit counts).getLast?) : last.2 ≤ entry.2 := by
  obtain ⟨front, hfront⟩ := List.getLast?_eq_some_iff.1 hlast
  have hsorted : (mostFrequent limit counts).Pairwise fun a b => b.2 ≤ a.2 :=
    (pairwise_ranking counts).sublist (List.take_sublist _ _)
  rw [hfront] at hentry hsorted
  rcases List.mem_append.1 hentry with hmem | hmem
  · exact (List.pairwise_append.1 hsorted).2.2 entry hmem last List.mem_cons_self
  · rw [List.mem_singleton.1 hmem]

/-- A text that is not listed is at most as frequent as one that is. -/
theorem count_le_of_not_listed (hentry : entry ∈ counts)
    (hnot : entry ∉ mostFrequent limit counts) {listed : String × Nat}
    (hlisted : listed ∈ mostFrequent limit counts) : entry.2 ≤ listed.2 := by
  have hmem : entry ∈ ranking counts := (ranking_perm counts).mem_iff.2 hentry
  have hsorted := pairwise_ranking counts
  rw [← List.take_append_drop limit.toNat (ranking counts)] at hmem hsorted
  rcases List.mem_append.1 hmem with hfront | hbehind
  · exact absurd hfront hnot
  · exact (List.pairwise_append.1 hsorted).2.2 listed hlisted entry hbehind

/-- **A text that is listed for one order only is as frequent as the last one
listed.** -/
theorem count_of_listed_once (h : counts.Perm counts')
    (hentry : entry ∈ mostFrequent limit counts) (hnot : entry ∉ mostFrequent limit counts') :
    ((mostFrequent limit counts).map (·.2)).getLast? = some entry.2 := by
  have hcounts := map_count_mostFrequent h limit
  obtain ⟨last, hlast⟩ : ∃ last, (mostFrequent limit counts).getLast? = some last := by
    rcases hempty : (mostFrequent limit counts).getLast? with - | last
    · rw [List.getLast?_eq_none_iff] at hempty
      rw [hempty] at hentry
      cases hentry
    · exact ⟨last, rfl⟩
  -- the other list ends with the same count, on a text that is listed there
  obtain ⟨last', hlast', hcount⟩ : ∃ last', (mostFrequent limit counts').getLast? = some last' ∧
      last'.2 = last.2 := by
    have hmapped : ((mostFrequent limit counts').map (·.2)).getLast? = some last.2 := by
      rw [← hcounts, List.getLast?_map, hlast, Option.map_some]
    rw [List.getLast?_map] at hmapped
    exact Option.map_eq_some_iff.1 hmapped
  have hlow : last.2 ≤ entry.2 := count_last_le hentry hlast
  have hhigh : entry.2 ≤ last'.2 := by
    have hmem : entry ∈ counts' := by
      have hranked : entry ∈ ranking counts := List.mem_of_mem_take hentry
      exact h.mem_iff.1 ((ranking_perm counts).mem_iff.1 hranked)
    exact count_le_of_not_listed hmem hnot (List.mem_of_getLast? hlast')
  rw [List.getLast?_map, hlast, Option.map_some]
  exact congrArg some (by omega)

end Frequent

end TableQuery
