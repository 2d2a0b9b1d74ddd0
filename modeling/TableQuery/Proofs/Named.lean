/-
TableQuery/Proofs/Named.lean

Lists of named values as finite maps with an order.

Setting and removing are seen through two views: which value a name has
(`getNamed?`), and which names there are, in order (`namesOf`).  As long as
each name occurs once, which both operations keep, the two views agree and
a removed name is gone.

Of values whose names come again either the first is kept, and then they are
named once each (`nodup_namesOf_firstNamed`), or the last.  Values that were named
once each are all kept (`latestNamed_of_nodup`), and nothing is lost of those that
agree under each name (`mem_latestNamed_iff`).
-/
import Mathlib.Data.List.Induction
import TableQuery.Named

namespace TableQuery

variable {α : Type} {name other : String} {value : α} {values : List (String × α)}

/-! ### The names -/

@[simp] theorem namesOf_cons (head : String × α) (rest : List (String × α)) :
    namesOf (head :: rest) = head.1 :: namesOf rest := rfl

theorem namesOf_append {values values' : List (String × α)} :
    namesOf (values ++ values') = namesOf values ++ namesOf values' := List.map_append

/-- A name has a value exactly if it is there. -/
theorem getNamed?_eq_none_iff : getNamed? name values = none ↔ name ∉ namesOf values := by
  induction values with
  | nil => simp [getNamed?, namesOf]
  | cons head rest ih =>
    obtain ⟨n, v⟩ := head
    by_cases h : n = name
    · simp [getNamed?, h]
    · rw [getNamed?, if_neg h, ih, namesOf_cons, List.mem_cons, not_or]
      exact ⟨fun hr => ⟨Ne.symm h, hr⟩, fun hr => hr.2⟩

theorem mem_namesOf_iff : name ∈ namesOf values ↔ ∃ value, getNamed? name values = some value := by
  rw [← Option.ne_none_iff_exists', Ne, getNamed?_eq_none_iff, Decidable.not_not]

/-- The value of a name stands under it. -/
theorem mem_of_getNamed? (h : getNamed? name values = some value) : (name, value) ∈ values := by
  induction values with
  | nil => cases h
  | cons head rest ih =>
    obtain ⟨n, v⟩ := head
    rw [getNamed?] at h
    split at h
    · next heq =>
      rw [heq, Option.some.inj h]
      exact List.mem_cons_self
    · exact List.mem_cons_of_mem _ (ih h)

/-! ### Each name once -/

/-- A name that occurs once has the value that it occurs with. -/
theorem getNamed?_of_mem (h : (namesOf values).Nodup) (hmem : (name, value) ∈ values) :
    getNamed? name values = some value := by
  induction values with
  | nil => cases hmem
  | cons head rest ih =>
    obtain ⟨n, v⟩ := head
    obtain ⟨hn, hrest⟩ := List.nodup_cons.1 h
    rcases List.mem_cons.1 hmem with heq | hmem
    · obtain ⟨rfl, rfl⟩ := Prod.mk.inj heq
      exact if_pos rfl
    · have hne : n ≠ name := by
        rintro rfl
        exact hn (List.mem_map.2 ⟨(n, value), hmem, rfl⟩)
      rw [getNamed?, if_neg hne, ih hrest hmem]

theorem mem_namesOf_setNamed :
    other ∈ namesOf (setNamed name value values) ↔ other = name ∨ other ∈ namesOf values := by
  by_cases h : other = name
  · subst h
    simp [mem_namesOf_iff]
  · rw [mem_namesOf_iff, mem_namesOf_iff, getNamed?_setNamed_of_ne h]
    simp [h]

theorem mem_of_mem_setNamed {entry : String × α} (h : entry ∈ setNamed name value values) :
    entry = (name, value) ∨ entry ∈ values := by
  induction values with
  | nil => exact .inl (List.mem_singleton.1 h)
  | cons head rest ih =>
    obtain ⟨n, v⟩ := head
    rw [setNamed] at h
    split at h
    · next hn =>
      rcases List.mem_cons.1 h with rfl | h
      · exact .inl (by rw [hn])
      · exact .inr (List.mem_cons_of_mem _ h)
    · rcases List.mem_cons.1 h with rfl | h
      · exact .inr List.mem_cons_self
      · exact (ih h).imp_right (List.mem_cons_of_mem _)

/-- Setting a name keeps the names distinct. -/
theorem nodup_namesOf_setNamed (h : (namesOf values).Nodup) :
    (namesOf (setNamed name value values)).Nodup := by
  induction values with
  | nil => simp [setNamed, namesOf]
  | cons head rest ih =>
    obtain ⟨n, v⟩ := head
    obtain ⟨hn, hrest⟩ := List.nodup_cons.1 h
    -- the name is replaced in place, or looked for behind a name that it is not
    by_cases he : n = name
    · rw [setNamed, if_pos he]
      exact List.nodup_cons.2 ⟨hn, hrest⟩
    · rw [setNamed, if_neg he]
      refine List.nodup_cons.2 ⟨fun hm => ?_, ih hrest⟩
      rcases mem_namesOf_setNamed.1 hm with heq | hmem
      · exact he heq
      · exact hn hmem

/-- A name that is there keeps its place. -/
theorem namesOf_setNamed_of_mem (h : name ∈ namesOf values) :
    namesOf (setNamed name value values) = namesOf values := by
  induction values with
  | nil => cases h
  | cons head rest ih =>
    obtain ⟨n, v⟩ := head
    by_cases he : n = name
    · rw [setNamed, if_pos he]
      rfl
    · rw [setNamed, if_neg he, namesOf_cons, namesOf_cons, ih]
      exact (List.mem_cons.1 h).resolve_left (Ne.symm he)

/-- A name that is not there goes to the end. -/
theorem setNamed_of_not_mem (h : name ∉ namesOf values) :
    setNamed name value values = values ++ [(name, value)] := by
  induction values with
  | nil => rfl
  | cons head rest ih =>
    obtain ⟨n, v⟩ := head
    rw [namesOf_cons, List.mem_cons, not_or] at h
    rw [setNamed, if_neg (Ne.symm h.1), ih h.2, List.cons_append]

theorem namesOf_setNamed_of_not_mem (h : name ∉ namesOf values) :
    namesOf (setNamed name value values) = namesOf values ++ [name] := by
  rw [setNamed_of_not_mem h, namesOf, List.map_append]
  rfl

/-- Setting a name that is there does not change which names are. -/
theorem isSome_getNamed?_setNamed (h : name ∈ namesOf values) (other : String) (value : α) :
    (getNamed? other (setNamed name value values)).isSome = (getNamed? other values).isSome := by
  by_cases hother : other = name
  · subst hother
    obtain ⟨v, hv⟩ := mem_namesOf_iff.1 h
    rw [getNamed?_setNamed_self, hv]
    rfl
  · rw [getNamed?_setNamed_of_ne hother]

/-- What is set twice is what it was set to last. -/
theorem setNamed_setNamed_self (name : String) (value value' : α) (values : List (String × α)) :
    setNamed name value' (setNamed name value values) = setNamed name value' values := by
  induction values with
  | nil => exact if_pos rfl
  | cons head rest ih =>
    obtain ⟨n, v⟩ := head
    by_cases hn : n = name
    · rw [setNamed, if_pos hn, setNamed, if_pos hn, setNamed, if_pos hn]
    · rw [setNamed, if_neg hn, setNamed, if_neg hn, ih, setNamed, if_neg hn]

/-- Two names can be set in either order, if the place of one is settled. -/
theorem setNamed_comm (hne : other ≠ name) (h : name ∈ namesOf values) (value value' : α) :
    setNamed other value' (setNamed name value values)
      = setNamed name value (setNamed other value' values) := by
  -- induction on the entries, up to the first that has one of the two names
  induction values with
  | nil => cases h
  | cons head rest ih =>
    obtain ⟨n, v⟩ := head
    by_cases hn : n = name
    · subst hn
      rw [setNamed, if_pos rfl, setNamed, if_neg (Ne.symm hne), setNamed, if_neg (Ne.symm hne),
        setNamed, if_pos rfl]
    · have hrest : name ∈ namesOf rest := (List.mem_cons.1 h).resolve_left (Ne.symm hn)
      by_cases hother : n = other
      · subst hother
        rw [setNamed, if_neg hn, setNamed, if_pos rfl, setNamed, if_pos rfl, setNamed, if_neg hn]
      · rw [setNamed, if_neg hn, setNamed, if_neg hother, setNamed, if_neg hother, setNamed,
          if_neg hn, ih hrest]

/-- Removing a name removes it from the names and changes nothing else there. -/
theorem namesOf_eraseNamed : namesOf (eraseNamed name values) = (namesOf values).erase name := by
  induction values with
  | nil => rfl
  | cons head rest ih =>
    obtain ⟨n, v⟩ := head
    by_cases h : n = name
    · rw [eraseNamed, if_pos h, namesOf_cons, h, List.erase_cons_head]
    · rw [eraseNamed, if_neg h, namesOf_cons, namesOf_cons, ih,
        List.erase_cons_tail (by simpa using h)]

/-- A removed name has no value any more. -/
theorem getNamed?_eraseNamed_self (h : (namesOf values).Nodup) :
    getNamed? name (eraseNamed name values) = none := by
  rw [getNamed?_eq_none_iff, namesOf_eraseNamed]
  exact h.not_mem_erase

/-! ### The first value of each name -/

theorem firstNamed_eq_nil_iff : firstNamed values = [] ↔ values = [] := by
  cases values with
  | nil => exact Iff.rfl
  | cons head rest => exact iff_of_false (List.cons_ne_nil _ _) (List.cons_ne_nil _ _)

theorem nodup_namesOf_firstNamed (values : List (String × α)) :
    (namesOf (firstNamed values)).Nodup := by
  induction values with
  | nil => exact List.nodup_nil
  | cons head rest ih =>
    refine List.nodup_cons.2 ⟨fun hmem => ?_, ih.sublist (List.filter_sublist.map Prod.fst)⟩
    obtain ⟨entry, hentry, hname⟩ := List.mem_map.1 hmem
    have hne : entry.1 ≠ head.1 := of_decide_eq_true (List.mem_filter.1 hentry).2
    exact hne hname

/-! ### The last value of each name -/

theorem latestNamed_concat (values : List (String × α)) (head : String × α) :
    latestNamed (values ++ [head]) = setNamed head.1 head.2 (latestNamed values) := by
  rw [latestNamed, List.foldl_append]
  rfl

theorem mem_namesOf_latestNamed :
    name ∈ namesOf (latestNamed values) ↔ name ∈ namesOf values := by
  induction values using List.reverseRecOn with
  | nil => exact Iff.rfl
  | append_singleton values head ih =>
    rw [latestNamed_concat, mem_namesOf_setNamed, ih, namesOf_append, List.mem_append, or_comm]
    exact or_congr_right List.mem_singleton.symm

/-- What is kept is one of the values. -/
theorem mem_of_mem_latestNamed {entry : String × α} (h : entry ∈ latestNamed values) :
    entry ∈ values := by
  induction values using List.reverseRecOn with
  | nil => exact h
  | append_singleton values head ih =>
    rw [latestNamed_concat] at h
    rcases mem_of_mem_setNamed h with rfl | h
    · exact List.mem_append_right _ List.mem_cons_self
    · exact List.mem_append_left _ (ih h)

/-- Of values that agree under each name nothing is lost. -/
theorem mem_latestNamed_iff {entry : String × α}
    (h : ∀ a ∈ values, ∀ b ∈ values, a.1 = b.1 → a = b) :
    entry ∈ latestNamed values ↔ entry ∈ values := by
  refine ⟨mem_of_mem_latestNamed, fun hentry => ?_⟩
  have hname : entry.1 ∈ namesOf (latestNamed values) :=
    mem_namesOf_latestNamed.2 (List.mem_map_of_mem hentry)
  obtain ⟨kept, hkept, heq⟩ := List.mem_map.1 hname
  obtain rfl := h kept (mem_of_mem_latestNamed hkept) entry hentry heq
  exact hkept

/-- Values whose names are distinct are all kept. -/
theorem latestNamed_of_nodup (h : (namesOf values).Nodup) : latestNamed values = values := by
  induction values using List.reverseRecOn with
  | nil => rfl
  | append_singleton values head ih =>
    rw [namesOf_append] at h
    obtain ⟨hvalues, -, hne⟩ := List.nodup_append.1 h
    have hfresh : head.1 ∉ namesOf values := fun hmem => hne _ hmem _ List.mem_cons_self rfl
    rw [latestNamed_concat, ih hvalues, setNamed_of_not_mem hfresh]

end TableQuery
