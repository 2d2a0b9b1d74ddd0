/-
TableQuery/Proofs/Summary/Listing.lean

Which texts a distribution lists, and in which order.

One text outranks another if it is more frequent, or as frequent and met
earlier in the rows (`Outranks`).  The ranking of a tally is in this order: its
counts fall, and because it is a stable arrangement, equal counts keep the
order of the tally, which is the order of first appearance.  A distribution is
the front of the ranking, so every text that it leaves out is outranked by all
that it lists (`ListsTop`).  It is cut at the limit, which lists nothing if it
is not positive.

Main result: `distribution_listsTop`.
-/
import TableQuery.Proofs.Summary.Counting

namespace TableQuery

/-! ### The order of a ranking -/

/-- A text is more frequent than another, or as frequent and met earlier. -/
def Outranks (texts : List String) (s t : String) : Prop :=
  texts.count t < texts.count s ∨ texts.count s = texts.count t ∧ texts.idxOf s < texts.idxOf t

/-- The entries of a ranked tally hold the numbers of occurrences. -/
theorem mem_ranking_tally {texts : List String} {entry : String × Nat}
    (h : entry ∈ ranking (tally texts)) : entry.1 ∈ texts ∧ entry.2 = texts.count entry.1 :=
  mem_tally_iff.1 ((ranking_perm _).mem_iff.1 h)

/-- **A ranked tally is in the order of the ranks.** -/
theorem pairwise_outranks_ranking (texts : List String) :
    (ranking (tally texts)).Pairwise fun a b => Outranks texts a.1 b.1 := by
  refine List.pairwise_iff_forall_sublist.2 fun {a b} hab => ?_
  have hle : b.2 ≤ a.2 := List.pairwise_iff_forall_sublist.1 (pairwise_ranking (tally texts)) hab
  obtain ⟨-, ha⟩ := mem_ranking_tally (hab.subset List.mem_cons_self)
  obtain ⟨-, hb⟩ := mem_ranking_tally (hab.subset (List.mem_cons_of_mem a List.mem_cons_self))
  rw [Outranks, ← ha, ← hb]
  rcases Nat.lt_or_eq_of_le hle with hlt | heq
  · exact .inl hlt
  · -- equal counts stand as they were counted
    have hcounted := pair_sublist_of_ranking heq.symm hab
    have hfirst := List.pairwise_map.1 (pairwise_idxOf_tally texts)
    exact .inr ⟨heq.symm, List.pairwise_iff_forall_sublist.1 hfirst hcounted⟩

/-! ### What a distribution lists -/

/-- The texts of a column, row by row; an absent cell has the empty text. -/
def textsOf (rows : List Row) (column : String) : List String :=
  rows.map fun row => (row.cell column).plainText

theorem length_textsOf (rows : List Row) (column : String) :
    (textsOf rows column).length = rows.length := List.length_map _

/-- A distribution lists the texts of the highest ranks among those of a column,
each once, with the number of its rows and their share of all rows. -/
structure ListsTop (limit : Int) (texts : List String) (d : List Frequency) : Prop where
  length : (d.length : Int) = min (max limit 0) texts.dedup.length
  nodup : (d.map (·.value)).Nodup
  counted : ∀ f ∈ d, f.value ∈ texts ∧ f.count = texts.count f.value ∧
    f.percentage = .ofQuotient false (100 * f.count) texts.length
  ranked : d.Pairwise fun f g => Outranks texts f.value g.value
  omitted : ∀ t ∈ texts, t ∉ d.map (·.value) → ∀ f ∈ d, Outranks texts f.value t

/-- The listed texts of a tally are those of the highest ranks. -/
theorem listsTop_mostFrequent (limit : Int) (texts : List String) :
    ListsTop limit texts
      ((mostFrequent limit (tally texts)).map (Frequency.among texts.length)) := by
  have hvalues : ((mostFrequent limit (tally texts)).map
      (Frequency.among texts.length)).map (·.value) = namesOf (mostFrequent limit (tally texts)) :=
    List.map_map
  have hranked := pairwise_outranks_ranking texts
  -- what is listed is the front of the ranking, and outranks what is behind it
  rw [← List.take_append_drop limit.toNat (ranking (tally texts)), ← mostFrequent_eq,
    List.pairwise_append] at hranked
  obtain ⟨hlisted, -, hcross⟩ := hranked
  refine ⟨?_, ?_, ?_, List.pairwise_map.2 hlisted, ?_⟩
  · rw [List.length_map, mostFrequent_eq, List.length_take, (ranking_perm _).length_eq,
      length_tally]
    omega
  · rw [hvalues]
    have hnodup : (namesOf (ranking (tally texts))).Nodup :=
      ((ranking_perm _).map _).nodup_iff.2 (nodup_namesOf_tally texts)
    exact hnodup.sublist ((List.take_sublist _ _).map _)
  · intro f hf
    obtain ⟨entry, hentry, rfl⟩ := List.mem_map.1 hf
    obtain ⟨hmem, hcount⟩ := mem_ranking_tally (List.mem_of_mem_take hentry)
    refine ⟨hmem, hcount, ?_⟩
    rw [Frequency.among]
  · intro t ht hnot f hf
    obtain ⟨entry, hentry, rfl⟩ := List.mem_map.1 hf
    rw [hvalues] at hnot
    -- a text that is not listed stands behind in the ranking
    have hbehind : (t, texts.count t) ∈ (ranking (tally texts)).drop limit.toNat := by
      have hmem := (ranking_perm _).mem_iff.2 (mem_tally_iff.2 ⟨ht, rfl⟩)
      rw [← List.take_append_drop limit.toNat (ranking (tally texts))] at hmem
      refine (List.mem_append.1 hmem).resolve_left fun hfront => hnot ?_
      exact List.mem_map_of_mem hfront
    exact hcross entry hentry _ hbehind

theorem distribution?_eq_listed (limits : Limits) (rows : List Row) (column : String) :
    distribution? limits rows column
      = if ((textsOf rows column).dedup.length : Int) ≤ limits.distinctTexts then
          some ((mostFrequent limits.listedTexts (tally (textsOf rows column))).map
            (Frequency.among (textsOf rows column).length))
        else none := by
  have htotal : (textsOf rows column).length = rows.length := List.length_map _
  rw [← length_tally, htotal]
  by_cases hfew : ((tally (textsOf rows column)).length : Int) ≤ limits.distinctTexts
  · rw [if_pos hfew]
    exact if_neg (not_lt.2 hfew)
  · rw [if_neg hfew]
    exact if_pos (not_le.1 hfew)

/-- **A distribution lists the most frequent texts of its column.**  In a summary
that is asked for, a column has a distribution exactly if it has few enough
distinct texts.  The distribution lists as many of them as the limit allows, in
falling order of frequency and equally frequent ones in the order of first
appearance, and every text it leaves out comes behind all of these. -/
theorem distribution_listsTop {rows : List Row} (hrows : rows ≠ []) (limits : Limits)
    {columns : List String} {column : String} (hcolumn : column ∈ columns) :
    ((∃ d, getNamed? column (Summary.ofRows limits columns true rows).categorical = some d) ↔
        ((textsOf rows column).dedup.length : Int) ≤ limits.distinctTexts) ∧
      ∀ d, getNamed? column (Summary.ofRows limits columns true rows).categorical = some d →
        ListsTop limits.listedTexts (textsOf rows column) d := by
  rw [getNamed?_categorical hrows rfl hcolumn, distribution?_eq_listed]
  split
  · next hfew =>
    refine ⟨iff_of_true ⟨_, rfl⟩ hfew, fun d hd => ?_⟩
    rw [← Option.some.inj hd]
    exact listsTop_mostFrequent _ _
  · next hmany =>
    refine ⟨iff_of_false ?_ hmany, fun d hd => nomatch hd⟩
    rintro ⟨d, hd⟩
    cases hd

/-- The votes of some people, two of them the same number in two forms, one of
them blank and one missing. -/
def votes : List Row :=
  [[("vote", .text "no")], [("vote", .text "12")], [], [("vote", .text "yes")],
    [("vote", .number (.whole 12 (by decide +kernel)))], [("vote", .text "")],
    [("vote", .text "no")]]

/-- Three texts have two votes each, and the limit leaves out the last of them to
appear. -/
theorem distribution_listsTop_votes :
    votes ≠ [] ∧ "vote" ∈ ["voter", "vote"] ∧
      ∃ d, getNamed? "vote" (Summary.ofRows { listedTexts := 2 } ["voter", "vote"] true
          votes).categorical = some d ∧
        d.map (fun f => (f.value, f.count)) = [("no", 2), ("12", 2)] ∧
        ListsTop 2 (textsOf votes "vote") d := by
  have hrows : votes ≠ [] := List.cons_ne_nil _ _
  have hcolumn : "vote" ∈ ["voter", "vote"] := by decide
  obtain ⟨hgiven, hlists⟩ := distribution_listsTop hrows { listedTexts := 2 } hcolumn
  obtain ⟨d, hd⟩ := hgiven.2 (by decide +kernel)
  have hvalues : (getNamed? "vote" (Summary.ofRows { listedTexts := 2 } ["voter", "vote"] true
      votes).categorical).map (·.map fun f => (f.value, f.count))
        = some [("no", 2), ("12", 2)] := by
    decide +kernel
  rw [hd] at hvalues
  exact ⟨hrows, hcolumn, d, hd, Option.some.inj hvalues, hlists d hd⟩

end TableQuery
