/-
TableQuery/Proofs/Text/Lines.lean

Joined lines and how they are divided again.

A text that is joined with line feeds is divided at every character that ends
a line.  The dividing is the same on both sides of a joint, as long as the
part in front of it ends in a character that ends no line; otherwise the two
may count as one end, or as two (`lines_append_lineFeed`).  So joined parts of
this kind give the lines of each part, one part after the other
(`lines_intercalate`), and they come back as they were exactly if each is one
line (`flatMap_lines_eq_self_iff`).
-/
import TableQuery.Text.Lines

namespace TableQuery.Text

/-! ### Ends of lines -/

/-- No character of a text ends a line. -/
def OneLine (cs : List Char) : Prop := ∀ c ∈ cs, isLineEnd c = false

instance (cs : List Char) : Decidable (OneLine cs) :=
  List.decidableBAll (isLineEnd · = false) cs

@[simp] theorem oneLine_nil : OneLine [] := fun _ h => nomatch h

@[simp] theorem oneLine_cons {c : Char} {cs : List Char} :
    OneLine (c :: cs) ↔ isLineEnd c = false ∧ OneLine cs := List.forall_mem_cons

@[simp] theorem oneLine_append {cs ds : List Char} :
    OneLine (cs ++ ds) ↔ OneLine cs ∧ OneLine ds := List.forall_mem_append

/-- Every character that ends a line is white space. -/
theorem isBlank_of_isLineEnd {c : Char} (h : isLineEnd c = true) : isBlank c = true := by
  rw [isLineEnd, lineEndRanges] at h
  rw [isBlank, blankRanges]
  grind [inRanges]

theorem oneLine_of_forall_not_isBlank {cs : List Char} (h : ∀ c ∈ cs, isBlank c = false) :
    OneLine cs := by
  intro c hc
  refine Bool.eq_false_iff.2 fun hend => ?_
  exact ne_true_of_eq_false (h c hc) (isBlank_of_isLineEnd hend)

theorem oneLine_intercalate_iff {sep : List Char} (hsep : OneLine sep) {parts : List (List Char)} :
    OneLine (sep.intercalate parts) ↔ ∀ part ∈ parts, OneLine part := by
  induction parts with
  | nil => simp
  | cons part parts ih =>
    cases parts with
    | nil => simp
    | cons next parts =>
      rw [List.intercalate_cons_cons, oneLine_append, oneLine_append, ih,
        List.forall_mem_cons (a := part)]
      simp [hsep]

/-- A text has a last character, and that one ends no line. -/
def EndsOpen (cs : List Char) : Prop := ∃ c ∈ cs.getLast?, isLineEnd c = false

/-- What stands in front does not matter to the last character. -/
theorem EndsOpen.append_left {cs : List Char} (h : EndsOpen cs) (front : List Char) :
    EndsOpen (front ++ cs) := by
  obtain ⟨c, hc, hopen⟩ := h
  refine ⟨c, ?_, hopen⟩
  rw [List.getLast?_append, Option.mem_def.1 hc]
  rfl

theorem endsOpen_of_oneLine {cs : List Char} (hne : cs ≠ []) (h : OneLine cs) : EndsOpen cs :=
  ⟨cs.getLast hne, List.getLast?_eq_some_getLast hne, h _ (List.getLast_mem hne)⟩

theorem EndsOpen.ne_nil {cs : List Char} (h : EndsOpen cs) : cs ≠ [] := by
  rintro rfl
  obtain ⟨c, hc, -⟩ := h
  cases hc

/-- Behind the first of several characters the last one is the same. -/
theorem endsOpen_cons_iff {c : Char} {cs : List Char} (hne : cs ≠ []) :
    EndsOpen (c :: cs) ↔ EndsOpen cs := by
  rw [EndsOpen, EndsOpen, List.getLast?_cons_of_ne_nil hne]

theorem EndsOpen.append_oneLine {cs ds : List Char} (h : EndsOpen cs) (hds : OneLine ds) :
    EndsOpen (cs ++ ds) := by
  by_cases hnil : ds = []
  · rw [hnil, List.append_nil]
    exact h
  · exact (endsOpen_of_oneLine hnil hds).append_left cs

theorem endsOpen_intercalate {sep : List Char} {parts : List (List Char)} (hne : parts ≠ [])
    (h : ∀ part ∈ parts, EndsOpen part) : EndsOpen (sep.intercalate parts) := by
  induction parts with
  | nil => exact absurd rfl hne
  | cons part parts ih =>
    obtain ⟨hpart, hparts⟩ := List.forall_mem_cons.1 h
    cases parts with
    | nil => simpa using hpart
    | cons next parts =>
      rw [List.intercalate_cons_cons]
      exact (ih (List.cons_ne_nil _ _) hparts).append_left _

/-! ### Dividing -/

theorem lines_of_lineEnd {c : Char} (h : isLineEnd c = true) {cs : List Char}
    (hpair : c = '\r' → cs.head? ≠ some '\n') : lines (c :: cs) = [] :: lines cs := by
  rw [lines.eq_def]
  split
  · next heq => cases heq
  · next heq =>
    obtain ⟨rfl, rfl⟩ := List.cons.inj heq
    exact absurd rfl (hpair rfl)
  · next heq =>
    obtain ⟨rfl, rfl⟩ := List.cons.inj heq
    exact if_pos h

theorem lines_lineFeed (cs : List Char) : lines ('\n' :: cs) = [] :: lines cs :=
  lines_of_lineEnd (by decide) fun h => absurd h (by decide)

theorem lines_of_open {c : Char} (h : isLineEnd c = false) (cs : List Char) :
    lines (c :: cs) = joinFirst c (lines cs) := by
  rw [lines.eq_def]
  split
  · next heq => cases heq
  · next heq =>
    obtain ⟨rfl, rfl⟩ := List.cons.inj heq
    exact absurd h (by decide)
  · next heq =>
    obtain ⟨rfl, rfl⟩ := List.cons.inj heq
    exact if_neg (ne_true_of_eq_false h)

theorem joinFirst_append (c : Char) {pieces : List (List Char)} (h : pieces ≠ [])
    (rest : List (List Char)) : joinFirst c (pieces ++ rest) = joinFirst c pieces ++ rest := by
  cases pieces with
  | nil => exact absurd rfl h
  | cons piece pieces => rfl

theorem joinFirst_ne_nil (c : Char) (pieces : List (List Char)) : joinFirst c pieces ≠ [] := by
  cases pieces with
  | nil => exact List.cons_ne_nil _ _
  | cons piece pieces => exact List.cons_ne_nil _ _

/-- Any character makes a line. -/
theorem lines_ne_nil {cs : List Char} (h : cs ≠ []) : lines cs ≠ [] := by
  fun_cases lines cs with
  | case1 => exact absurd rfl h
  | case2 cs => exact List.cons_ne_nil _ _
  | case3 c cs _ hend => exact List.cons_ne_nil _ _
  | case4 c cs _ hend => exact joinFirst_ne_nil c _

/-- **A text is divided at a line feed that its front does not merge with.**
Everything about joined lines follows from this equation. -/
theorem lines_append_lineFeed {cs : List Char} (h : EndsOpen cs) (rest : List Char) :
    lines (cs ++ '\n' :: rest) = lines cs ++ lines rest := by
  fun_induction lines cs with
  | case1 => exact absurd rfl h.ne_nil
  | case2 cs ih =>
    -- the last character ends no line, so it is not the line feed
    have hne : cs ≠ [] := by
      rintro rfl
      obtain ⟨c, hc, hopen⟩ := h
      obtain rfl := Option.some.inj hc
      exact absurd hopen (by decide)
    rw [endsOpen_cons_iff (List.cons_ne_nil _ _), endsOpen_cons_iff hne] at h
    show [] :: lines (cs ++ '\n' :: rest) = _
    rw [ih h, List.cons_append]
  | case3 c cs hpair hend ih =>
    have hne : cs ≠ [] := by
      rintro rfl
      obtain ⟨d, hd, hopen⟩ := h
      obtain rfl := Option.some.inj hd
      exact ne_true_of_eq_false hopen hend
    rw [endsOpen_cons_iff hne] at h
    rw [List.cons_append, lines_of_lineEnd hend, ih h, List.cons_append]
    intro hc hhead
    obtain ⟨d, ds, rfl⟩ := List.exists_cons_of_ne_nil hne
    obtain rfl := Option.some.inj hhead
    exact hpair ds hc rfl
  | case4 c cs _ hend ih =>
    rw [List.cons_append, lines_of_open (Bool.eq_false_iff.2 hend)]
    by_cases hne : cs = []
    · rw [hne, List.nil_append, lines_lineFeed]
      rfl
    · rw [endsOpen_cons_iff hne] at h
      rw [ih h, joinFirst_append c (lines_ne_nil hne)]

/-! ### Lines -/

/-- A line holds no end of a line. -/
theorem oneLine_of_mem_lines {cs line : List Char} (h : line ∈ lines cs) : OneLine line := by
  -- induction on the lines: line ends open a new one, other characters join the first
  fun_induction lines cs generalizing line with
  | case1 => cases h
  | case2 cs ih =>
    rcases List.mem_cons.1 h with rfl | h
    · exact oneLine_nil
    · exact ih h
  | case3 c cs _ hend ih =>
    rcases List.mem_cons.1 h with rfl | h
    · exact oneLine_nil
    · exact ih h
  | case4 c cs _ hend ih =>
    have hc : isLineEnd c = false := Bool.eq_false_iff.2 hend
    -- the character joins the first line of the rest, or is a line of its own
    rcases hlines : lines cs with - | ⟨first, others⟩
    · rw [hlines, joinFirst, List.mem_singleton] at h
      rw [h, oneLine_cons]
      exact ⟨hc, oneLine_nil⟩
    · rw [hlines] at h ih
      rcases List.mem_cons.1 h with rfl | h
      · exact oneLine_cons.2 ⟨hc, ih List.mem_cons_self⟩
      · exact ih (List.mem_cons_of_mem _ h)

/-- A text without an end of a line is its one line. -/
theorem lines_of_oneLine {cs : List Char} (hne : cs ≠ []) (h : OneLine cs) : lines cs = [cs] := by
  induction cs with
  | nil => exact absurd rfl hne
  | cons c cs ih =>
    obtain ⟨hc, hcs⟩ := oneLine_cons.1 h
    rw [lines_of_open hc]
    by_cases hnil : cs = []
    · rw [hnil]
      rfl
    · rw [ih hnil hcs]
      rfl

/-! ### Joined lines -/

/-- **Joined parts are divided part by part.** -/
theorem lines_intercalate {parts : List (List Char)} (h : ∀ part ∈ parts, EndsOpen part) :
    lines (['\n'].intercalate parts) = parts.flatMap lines := by
  induction parts with
  | nil => rfl
  | cons part parts ih =>
    obtain ⟨hpart, hparts⟩ := List.forall_mem_cons.1 h
    cases parts with
    | nil => simp
    | cons next parts =>
      rw [List.intercalate_cons_cons, List.append_assoc, List.singleton_append,
        lines_append_lineFeed hpart, ih hparts]
      exact List.flatMap_cons.symm

/-- Parts come back as they were exactly if each of them is one line. -/
theorem flatMap_lines_eq_self_iff {parts : List (List Char)} (h : ∀ part ∈ parts, part ≠ []) :
    parts.flatMap lines = parts ↔ ∀ part ∈ parts, OneLine part := by
  constructor
  · intro heq part hpart
    rw [← heq, List.mem_flatMap] at hpart
    obtain ⟨other, -, hline⟩ := hpart
    exact oneLine_of_mem_lines hline
  · intro hall
    have hsingle : ∀ part ∈ parts, lines part = [part] :=
      fun part hpart => lines_of_oneLine (h part hpart) (hall part hpart)
    rw [List.flatMap_def, List.map_congr_left hsingle, ← List.flatMap_def, List.flatMap_singleton']

end TableQuery.Text
