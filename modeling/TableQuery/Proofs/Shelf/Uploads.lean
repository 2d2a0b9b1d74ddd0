/-
TableQuery/Proofs/Shelf/Uploads.lean

A shelf holds the latest uploads, in the order of their arrival.

What is on a shelf follows from the commands that were given.  A command counts
by what it does on the shelf that the commands before it leave: it adds a
workbook if the upload is read, and removes a file if the file is there
(`HappensAt`).  A name is on the shelf if it was added at some place and not
removed behind it (`StaysFrom`), its place in the order is the first of these
(`EntersAt`), and its workbook is the one that was added last (`LatestAt`).

One command puts at most one workbook on the shelf or takes at most one away,
and `Effect` has a constructor for each.  The three facts follow command by
command (`recorded_after`).  Distinct names are consumed by removal, where a
name that is removed must be gone.

Main result: `uploads_after`.
-/
import Mathlib.Data.List.Induction
import Mathlib.Data.Nat.Find
import TableQuery.Proofs.Shelf.Consistency

namespace TableQuery

namespace Shelf

variable {s : Shelf} {c : Command} {commands : List Command} {name other : String} {i : Nat}
  {w : Workbook}

/-! ### What commands do -/

theorem after_concat (commands : List Command) (c : Command) :
    s.after (commands ++ [c]) = ((s.after commands).perform c).2 := s.after_append commands [c]

/-- A command adds a workbook under a name: the upload is read, and this is what
it holds. -/
def Adds (name : String) (w : Workbook) (s : Shelf) (c : Command) : Prop :=
  ∃ content, c = .add name content ∧ (runOn (Shelf.add name content) s).1 = .ok w

/-- A command removes a file, and succeeds. -/
def Removes (name : String) (s : Shelf) (c : Command) : Prop :=
  c = .remove name ∧ (s.perform c).1 = .ok ()

/-- A command that adds removes nothing. -/
theorem Adds.not_removes (h : Adds name w s c) (other : String) : ¬ Removes other s c := by
  obtain ⟨content, rfl, -⟩ := h
  rintro ⟨hremove, -⟩
  cases hremove

/-- A command adds at most one workbook, under one name. -/
theorem Adds.unique {v : Workbook} (h : Adds name w s c) (h' : Adds other v s c) :
    other = name ∧ v = w := by
  obtain ⟨content, rfl, hw⟩ := h
  obtain ⟨_, ⟨rfl, rfl⟩, hv⟩ := h'
  rw [hw] at hv
  exact ⟨rfl, (Except.ok.inj hv).symm⟩

/-- The command at a place does this, on the shelf that the commands before it
leave. -/
def HappensAt (p : Shelf → Command → Prop) (commands : List Command) (i : Nat) : Prop :=
  ∃ c, commands[i]? = some c ∧ p (after {} (commands.take i)) c

/-- A name was added at a place, and not removed behind it. -/
def StaysFrom (commands : List Command) (name : String) (i : Nat) : Prop :=
  (∃ w, HappensAt (Adds name w) commands i) ∧ ∀ j, i < j → ¬ HappensAt (Removes name) commands j

/-- The place where a name was added first, of those behind which it was not
removed. -/
def EntersAt (commands : List Command) (name : String) (i : Nat) : Prop :=
  StaysFrom commands name i ∧ ∀ k, StaysFrom commands name k → i ≤ k

/-- The place where a name was added last, and the workbook it was added with. -/
def LatestAt (commands : List Command) (name : String) (w : Workbook) (i : Nat) : Prop :=
  HappensAt (Adds name w) commands i ∧ ∀ j, i < j → ∀ v, ¬ HappensAt (Adds name v) commands j

/-! ### One more command -/

theorem HappensAt.lt {p : Shelf → Command → Prop} (h : HappensAt p commands i) :
    i < commands.length := by
  obtain ⟨c, hc, -⟩ := h
  exact (List.getElem?_eq_some_iff.1 hc).1

/-- One more command happens behind the others, which happen as before. -/
theorem happensAt_concat {p : Shelf → Command → Prop} :
    HappensAt p (commands ++ [c]) i ↔
      HappensAt p commands i ∨ i = commands.length ∧ p (after {} commands) c := by
  -- positions before the last command, that of the last command, and those past the end
  rcases Nat.lt_trichotomy i commands.length with hlt | rfl | hgt
  · have hnot : ¬ (i = commands.length ∧ p (after {} commands) c) :=
      fun h => Nat.ne_of_lt hlt h.1
    rw [HappensAt, List.getElem?_append_left hlt, List.take_append_of_le_length (Nat.le_of_lt hlt),
      or_iff_left hnot, HappensAt]
  · have hnot : ¬ HappensAt p commands commands.length := fun h => Nat.lt_irrefl _ h.lt
    rw [HappensAt, List.getElem?_concat_length, List.take_left, or_iff_right hnot]
    simp
  · have hlong : ¬ HappensAt p (commands ++ [c]) i := by
      intro h
      have hlt := h.lt
      rw [List.length_append, List.length_singleton] at hlt
      omega
    refine iff_of_false hlong ?_
    rintro (h | ⟨h, -⟩)
    · exact Nat.lt_asymm hgt h.lt
    · exact Nat.ne_of_gt hgt h

/-- After one more command a name stays from where it did, or from that command,
unless the command removes it. -/
theorem staysFrom_concat :
    StaysFrom (commands ++ [c]) name i ↔ ¬ Removes name (after {} commands) c ∧
      (StaysFrom commands name i ∨
        i = commands.length ∧ ∃ w, Adds name w (after {} commands) c) := by
  simp only [StaysFrom, happensAt_concat]
  constructor
  -- added earlier, and the last command does not remove it; or added by that command
  · rintro ⟨⟨w, hw | ⟨rfl, hw⟩⟩, hkept⟩
    · refine ⟨fun h => hkept _ hw.lt (.inr ⟨rfl, h⟩), .inl ⟨⟨w, hw⟩, ?_⟩⟩
      exact fun j hj h => hkept j hj (.inl h)
    · exact ⟨hw.not_removes name, .inr ⟨rfl, w, hw⟩⟩
  · rintro ⟨hnot, ⟨⟨w, hw⟩, hkept⟩ | ⟨rfl, w, hw⟩⟩
    · refine ⟨⟨w, .inl hw⟩, ?_⟩
      rintro j hj (h | ⟨-, h⟩)
      · exact hkept j hj h
      · exact hnot h
    · refine ⟨⟨w, .inr ⟨rfl, hw⟩⟩, ?_⟩
      rintro j hj (h | ⟨rfl, -⟩)
      · exact Nat.lt_asymm hj h.lt
      · exact Nat.lt_irrefl _ hj

theorem StaysFrom.exists_entersAt (h : StaysFrom commands name i) :
    ∃ k, EntersAt commands name k := by
  classical
  have hex : ∃ k, StaysFrom commands name k := ⟨i, h⟩
  exact ⟨Nat.find hex, Nat.find_spec hex, fun k hk => Nat.find_min' hex hk⟩

theorem EntersAt.lt (h : EntersAt commands name i) : i < commands.length := by
  obtain ⟨⟨⟨w, hw⟩, -⟩, -⟩ := h
  exact hw.lt

/-- A name keeps its place unless it is removed. -/
theorem EntersAt.concat (h : EntersAt commands name i)
    (hnot : ¬ Removes name (after {} commands) c) : EntersAt (commands ++ [c]) name i := by
  refine ⟨staysFrom_concat.2 ⟨hnot, .inl h.1⟩, ?_⟩
  intro k hk
  rcases (staysFrom_concat.1 hk).2 with hk | ⟨rfl, -⟩
  · exact h.2 k hk
  · exact Nat.le_of_lt h.lt

/-- A name that was not there enters with the command that adds it. -/
theorem entersAt_length (hnot : ∀ k, ¬ StaysFrom commands name k)
    (hw : Adds name w (after {} commands) c) :
    EntersAt (commands ++ [c]) name commands.length := by
  refine ⟨staysFrom_concat.2 ⟨hw.not_removes name, .inr ⟨rfl, w, hw⟩⟩, ?_⟩
  intro k hk
  rcases (staysFrom_concat.1 hk).2 with hk | ⟨rfl, -⟩
  · exact absurd hk (hnot k)
  · exact le_rfl

/-- The last workbook of a name is its last one still, unless another is added. -/
theorem LatestAt.concat (h : LatestAt commands name w i)
    (hnot : ∀ v, ¬ Adds name v (after {} commands) c) : LatestAt (commands ++ [c]) name w i := by
  refine ⟨happensAt_concat.2 (.inl h.1), ?_⟩
  intro j hj v hv
  rcases happensAt_concat.1 hv with hv | ⟨-, hv⟩
  · exact h.2 j hj v hv
  · exact hnot v hv

theorem latestAt_length (hw : Adds name w (after {} commands) c) :
    LatestAt (commands ++ [c]) name w commands.length := by
  refine ⟨happensAt_concat.2 (.inr ⟨rfl, hw⟩), ?_⟩
  intro j hj v hv
  have hlt := hv.lt
  rw [List.length_append, List.length_singleton] at hlt
  omega

/-! ### What one command does to the workbooks -/

/-- What a command makes of the workbooks: one is set, one is taken away, or all
stay as they are. -/
inductive Effect (s : Shelf) (c : Command) : List (String × Workbook) → Prop
  | added {name : String} {w : Workbook} : Adds name w s c → Effect s c (setNamed name w s.workbooks)
  | removed {name : String} : Removes name s c → Effect s c (eraseNamed name s.workbooks)
  | kept : (∀ name w, ¬ Adds name w s c) → (∀ name, ¬ Removes name s c) → Effect s c s.workbooks

theorem effect_perform (hs : s.Consistent) (c : Command) :
    Effect s c (s.perform c).2.workbooks := by
  -- a command that neither adds nor removes, whatever its result
  have hselects (hadd : ∀ name content, c ≠ .add name content)
      (hremove : ∀ name, c ≠ .remove name) : Effect s c s.workbooks :=
    .kept (fun name _ ⟨content, h, _⟩ => hadd name content h) fun name ⟨h, _⟩ => hremove name h
  cases c with
  | add name content =>
    rcases hload : Workbook.load name content with e | w
    · rw [perform_add_of_error hload]
      refine .kept ?_ fun _ ⟨h, _⟩ => by cases h
      rintro _ w ⟨_, ⟨rfl, rfl⟩, hw⟩
      rw [runOn_add_of_error hload] at hw
      cases hw
    · rw [perform_add_of_ok hload]
      refine .added ⟨content, rfl, ?_⟩
      rw [runOn_add_of_ok hload]
  | remove name =>
    rcases hw : getNamed? name s.workbooks with - | w
    · rw [perform_remove_of_none hw]
      refine .kept (fun _ _ ⟨_, h, _⟩ => by cases h) ?_
      rintro _ ⟨⟨rfl⟩, h⟩
      rw [perform_remove_of_none hw] at h
      cases h
    · rw [perform_remove_of_some hw]
      refine .removed ⟨rfl, ?_⟩
      rw [perform_remove_of_some hw]
  | selectFile name =>
    have hkept := hselects (by simp) (by simp)
    rcases hw : getNamed? name s.workbooks with - | w
    · rw [perform_selectFile_of_none hw]
      exact hkept
    · rw [perform_selectFile_of_some hw]
      exact hkept
  | selectSheet sheet =>
    have hkept := hselects (by simp) (by simp)
    rcases hx : s.selection with - | x
    · rw [perform_selectSheet_of_none hx]
      exact hkept
    · obtain ⟨w, hw, -⟩ := hs.current hx
      rw [perform_selectSheet_of_some hx hw]
      rcases w.table sheet with e | t
      · exact hkept
      · exact hkept

/-! ### The workbooks and the commands -/

/-- The workbooks are those that the commands leave: the names are the ones that
stay, in the order in which they entered, and each has its latest workbook. -/
structure Recorded (commands : List Command) (workbooks : List (String × Workbook)) : Prop where
  stays : ∀ name, name ∈ namesOf workbooks ↔ ∃ i, StaysFrom commands name i
  ordered : (namesOf workbooks).Pairwise fun a b =>
    ∃ i j, EntersAt commands a i ∧ EntersAt commands b j ∧ i < j
  latest : ∀ name w, getNamed? name workbooks = some w → ∃ i, LatestAt commands name w i

variable {workbooks : List (String × Workbook)}

theorem recorded_nil : Recorded [] [] where
  stays := by
    intro name
    refine iff_of_false List.not_mem_nil ?_
    rintro ⟨i, ⟨w, hw⟩, -⟩
    exact Nat.not_lt_zero i hw.lt
  ordered := .nil
  latest := by
    intro name w h
    cases h

/-- Names that are not removed keep their order. -/
theorem Recorded.ordered_concat (h : Recorded commands workbooks) {names : List String}
    (hsub : names.Sublist (namesOf workbooks))
    (hnot : ∀ name ∈ names, ¬ Removes name (after {} commands) c) :
    names.Pairwise fun a b =>
      ∃ i j, EntersAt (commands ++ [c]) a i ∧ EntersAt (commands ++ [c]) b j ∧ i < j := by
  refine (h.ordered.sublist hsub).imp_of_mem ?_
  rintro a b ha hb ⟨i, j, hi, hj, hlt⟩
  exact ⟨i, j, hi.concat (hnot a ha), hj.concat (hnot b hb), hlt⟩

/-- Adding a workbook, under a name that is there or a new one. -/
theorem Recorded.added (h : Recorded commands (after {} commands).workbooks)
    (hw : Adds name w (after {} commands) c) :
    Recorded (commands ++ [c]) (setNamed name w (after {} commands).workbooks) where
  stays := by
    intro other
    simp only [mem_namesOf_setNamed, h.stays, staysFrom_concat]
    constructor
    · rintro (rfl | ⟨i, hi⟩)
      · exact ⟨commands.length, hw.not_removes other, .inr ⟨rfl, w, hw⟩⟩
      · exact ⟨i, hw.not_removes other, .inl hi⟩
    · rintro ⟨i, -, hi | ⟨-, v, hv⟩⟩
      · exact .inr ⟨i, hi⟩
      · exact .inl (hw.unique hv).1
  ordered := by
    have hold := h.ordered_concat (List.Sublist.refl _) fun other _ => hw.not_removes other
    by_cases hmem : name ∈ namesOf (after {} commands).workbooks
    · rw [namesOf_setNamed_of_mem hmem]
      exact hold
    · rw [namesOf_setNamed_of_not_mem hmem, List.pairwise_append]
      refine ⟨hold, List.pairwise_singleton _ _, ?_⟩
      intro a ha b hb
      obtain rfl := List.mem_singleton.1 hb
      -- the new name enters last, behind all that are there
      have hnew : ∀ k, ¬ StaysFrom commands b k := fun k hk => hmem ((h.stays b).2 ⟨k, hk⟩)
      obtain ⟨i, hi⟩ := (h.stays a).1 ha
      obtain ⟨k, hk⟩ := hi.exists_entersAt
      exact ⟨k, commands.length, hk.concat (hw.not_removes a), entersAt_length hnew hw, hk.lt⟩
  latest := by
    intro other v hv
    by_cases he : other = name
    · subst he
      rw [getNamed?_setNamed_self] at hv
      obtain rfl := Option.some.inj hv
      exact ⟨commands.length, latestAt_length hw⟩
    · rw [getNamed?_setNamed_of_ne he] at hv
      obtain ⟨i, hi⟩ := h.latest other v hv
      exact ⟨i, hi.concat fun _ hadds => he (hw.unique hadds).1⟩

/-- Removing a file. -/
theorem Recorded.removed (h : Recorded commands (after {} commands).workbooks)
    (hnodup : (namesOf (after {} commands).workbooks).Nodup)
    (hremoves : Removes name (after {} commands) c) :
    Recorded (commands ++ [c]) (eraseNamed name (after {} commands).workbooks) where
  stays := by
    intro other
    -- one name is gone and nothing is added, so each field is about the other names
    have hother : Removes other (after {} commands) c ↔ other = name := by
      constructor
      · rintro ⟨rfl, -⟩
        exact Command.remove.inj hremoves.1
      · rintro rfl
        exact hremoves
    have hadds : ∀ v, ¬ Adds other v (after {} commands) c := fun v hv => hv.not_removes name hremoves
    rw [namesOf_eraseNamed, hnodup.mem_erase_iff]
    simp only [h.stays, staysFrom_concat, hother, hadds, exists_false, and_false, or_false,
      exists_and_left]
  ordered := by
    rw [namesOf_eraseNamed]
    refine h.ordered_concat List.erase_sublist ?_
    rintro other hmem ⟨heq, -⟩
    obtain rfl := Command.remove.inj (hremoves.1.symm.trans heq)
    exact (hnodup.mem_erase_iff.1 hmem).1 rfl
  latest := by
    intro other v hv
    obtain ⟨i, hi⟩ := h.latest other v (getNamed?_of_eraseNamed hnodup hv)
    exact ⟨i, hi.concat fun _ hadds => hadds.not_removes name hremoves⟩

/-- A command that neither adds nor removes. -/
theorem Recorded.kept (h : Recorded commands workbooks)
    (hadds : ∀ name w, ¬ Adds name w (after {} commands) c)
    (hremoves : ∀ name, ¬ Removes name (after {} commands) c) :
    Recorded (commands ++ [c]) workbooks where
  stays := by
    intro name
    simp only [h.stays, staysFrom_concat, hadds, hremoves, not_false_eq_true, exists_false,
      and_false, or_false, true_and]
  ordered := h.ordered_concat (List.Sublist.refl _) fun name _ => hremoves name
  latest := by
    intro name w hw
    obtain ⟨i, hi⟩ := h.latest name w hw
    exact ⟨i, hi.concat fun v => hadds name v⟩

/-- The workbooks after any sequence of commands. -/
theorem recorded_after (commands : List Command) :
    Recorded commands (after {} commands).workbooks := by
  -- induction from the end, since a command acts on what the earlier ones made
  induction commands using List.reverseRecOn with
  | nil => exact recorded_nil
  | append_singleton commands c ih =>
    have hs : (after {} commands).Consistent := consistent_after commands
    have heffect := effect_perform hs c
    rw [after_concat]
    generalize ((after {} commands).perform c).2.workbooks = workbooks at heffect ⊢
    cases heffect with
    | added hw => exact ih.added hw
    | removed hremoves => exact ih.removed hs.nodup hremoves
    | kept hadds hremoves => exact ih.kept hadds hremoves

/-! ### After a removal -/

/-- The first sheet of the first file is in use, or nothing if there is no
file. -/
def OpensFirst (s : Shelf) : Prop :=
  (s.fileNames = [] → s.selection = none) ∧
    ∀ file, s.fileNames.head? = some file → ∃ w sheet table,
      getNamed? file s.workbooks = some w ∧ w.sheetNames.head? = some sheet ∧
        w.table sheet = .ok table ∧ s.selectedFile? = some file ∧
        s.selectedSheet? = some sheet ∧ s.activeTable? = some table

theorem opensFirst_of_firstOpening (hn : SelfNamed s.workbooks)
    (h : s.selection = firstOpening? s.workbooks) : s.OpensFirst := by
  obtain ⟨workbooks, selection⟩ := s
  -- no workbook, no selection; otherwise the first workbook with its first sheet
  rcases workbooks with - | ⟨⟨name, w⟩, others⟩
  · refine ⟨fun _ => h, ?_⟩
    intro file hfile
    cases hfile
  · refine ⟨fun hnil => absurd hnil (List.cons_ne_nil _ _), ?_⟩
    intro file hfile
    obtain rfl : name = file := Option.some.inj hfile
    have hw : getNamed? name ((name, w) :: others) = some w := if_pos rfl
    have hselection : selection = some w.opening := h
    have hname : w.name = name := hn hw
    refine ⟨w, w.firstSheet, w.firstTable, hw, w.head?_sheetNames, w.table_firstSheet, ?_⟩
    rw [selectedFile?, selectedSheet?, activeTable?, hselection, ← hname]
    exact ⟨rfl, rfl, rfl⟩

/-- What removing a file does to the selection. -/
theorem Consistent.opensFirst (hs : s.Consistent) (h : s.selectedFile? = some name) :
    s.perform (.remove name) = (.ok (), s.without name) ∧
      (s.without name).fileNames = s.fileNames.erase name ∧ (s.without name).OpensFirst := by
  obtain ⟨x, hx, rfl⟩ := Option.map_eq_some_iff.1 h
  obtain ⟨w, hw, -⟩ := hs.current hx
  refine ⟨perform_remove_of_some hw, namesOf_eraseNamed, ?_⟩
  refine opensFirst_of_firstOpening (hs.without _).named ?_
  rw [Shelf.without, if_pos h]

theorem selection_perform_remove (h : s.selectedFile? ≠ some name) :
    (s.perform (.remove name)).2.selection = s.selection := by
  rcases hw : getNamed? name s.workbooks with - | w
  · rw [perform_remove_of_none hw]
  · rw [perform_remove_of_some hw, without, if_neg h]

/-- **A shelf holds the latest uploads.**  After any sequence of commands on an
empty shelf, failed ones included, the names are those that were added and not
removed since, each once, in the order in which they were first added behind
their last removal.  Each has the workbook that it was last added with.
Removing the file in use opens the first sheet of the first file that remains,
and removing any other file leaves the selection as it is. -/
theorem uploads_after (commands : List Command) :
    let s := after {} commands
    s.fileNames.Nodup ∧
      (∀ name, name ∈ s.fileNames ↔ ∃ i, StaysFrom commands name i) ∧
      (s.fileNames.Pairwise fun a b =>
        ∃ i j, EntersAt commands a i ∧ EntersAt commands b j ∧ i < j) ∧
      (∀ name w, getNamed? name s.workbooks = some w → ∃ i, LatestAt commands name w i) ∧
      (∀ name, s.selectedFile? = some name → (s.perform (.remove name)).1 = .ok () ∧
        (s.perform (.remove name)).2.fileNames = s.fileNames.erase name ∧
        (s.perform (.remove name)).2.OpensFirst) ∧
      ∀ name, s.selectedFile? ≠ some name →
        (s.perform (.remove name)).2.selection = s.selection := by
  intro s
  have hs : s.Consistent := consistent_after commands
  have hrecorded : Recorded commands s.workbooks := recorded_after commands
  refine ⟨hs.nodup, hrecorded.stays, hrecorded.ordered, hrecorded.latest, ?_, ?_⟩
  · intro name hname
    obtain ⟨hperform, hnames, hopens⟩ := hs.opensFirst hname
    rw [hperform]
    exact ⟨rfl, hnames, hopens⟩
  · intro name hname
    exact selection_perform_remove hname

end Shelf

end TableQuery
