/-
TableQuery/Proofs/Question/Normalizing.lean

The normal form of a question.

A text has words: the longest parts without white space, in their order.  That is
said here without the function that finds them (`DividesInto`), and the two agree
(`words_eq_iff`), so every text has its words and no others.

A text is in normal form if its only white space is single blanks, each between
two words (`SinglySpaced`).  These are exactly the texts that spacing leaves as
they are (`spaced_eq_self_iff`).  So among all texts with the words of a question
there is one in normal form, and normalizing finds it: whatever two questions with
the same words differ in, nothing of it is left.

Main result: `normalizeQuestion_canonical`.
-/
import TableQuery.Proofs.Question.Addressing

namespace TableQuery

namespace Text

/-- A text and its words: in front of a word is white space or nothing, behind it
is white space or the end. -/
inductive DividesInto : List Char → List (List Char) → Prop
  | gap {gap : List Char} : Gap gap → DividesInto gap []
  | word {gap w rest : List Char} {ws : List (List Char)} : Gap gap → IsWord w →
    (∀ c ∈ rest.head?, isBlank c = true) → DividesInto rest ws →
      DividesInto (gap ++ w ++ rest) (w :: ws)

/-- The only white space in a text is single blanks, each between two words. -/
def SinglySpaced (cs : List Char) : Prop :=
  ∀ before b after, cs = before ++ b :: after → isBlank b = true →
    b = ' ' ∧ (∃ c ∈ before.getLast?, isBlank c = false) ∧ ∃ c ∈ after.head?, isBlank c = false

variable {b : Char} {cs gap w rest : List Char} {ws : List (List Char)}

/-! ### A text and its words -/

/-- A word that is followed by white space or the end is the first word. -/
theorem words_word_append (hw : IsWord w) (hrest : ∀ c ∈ rest.head?, isBlank c = true) :
    words (w ++ rest) = w :: words rest := by
  cases rest with
  | nil => rw [List.append_nil, hw.words_eq, words]
  | cons b rest =>
    have hb : isBlank b = true := hrest b rfl
    rw [words_append_blank hb, hw.words_eq, words_cons_blank hb, List.singleton_append]

theorem DividesInto.cons_blank (hb : isBlank b = true) (h : DividesInto cs ws) :
    DividesInto (b :: cs) ws := by
  cases h with
  | gap hgap => exact .gap (gap_cons.2 ⟨hb, hgap⟩)
  | word hgap hw hrest h => exact .word (gap_cons.2 ⟨hb, hgap⟩) hw hrest h

theorem dividesInto_word_append (hw : IsWord w) (hrest : ∀ c ∈ rest.head?, isBlank c = true)
    (h : DividesInto rest ws) : DividesInto (w ++ rest) (w :: ws) :=
  have hgap : Gap [] := List.forall_mem_nil _
  .word hgap hw hrest h

theorem dividesInto_words (cs : List Char) : DividesInto cs (words cs) := by
  induction cs using divide_induction with
  | unbroken w hw =>
    by_cases hne : w = []
    · rw [hne, words]
      exact .gap (List.forall_mem_nil _)
    -- the text ends behind its only word, which `dividesInto_word_append` takes as a blank
    · have hend : ∀ c ∈ ([] : List Char).head?, isBlank c = true := by rintro c ⟨⟩
      have hdivides : DividesInto (w ++ []) [w] :=
        dividesInto_word_append ⟨hne, hw⟩ hend (.gap (List.forall_mem_nil _))
      rw [words_of_unbroken hw hne]
      rwa [List.append_nil] at hdivides
  | divided w b rest hw hb ih =>
    have hblank : DividesInto (b :: rest) (words rest) := ih.cons_blank hb
    by_cases hne : w = []
    · rw [hne, List.nil_append, words_cons_blank hb]
      exact hblank
    -- the blank ends the word, so the word is divided off in front of it
    · have hbehind : ∀ c ∈ (b :: rest).head?, isBlank c = true := by
        rintro c ⟨⟩
        exact hb
      rw [words_word_append ⟨hne, hw⟩ hbehind, words_cons_blank hb]
      exact dividesInto_word_append ⟨hne, hw⟩ hbehind hblank

/-- **The words that are found are the words of the text.** -/
theorem words_eq_iff : words cs = ws ↔ DividesInto cs ws := by
  constructor
  · rintro rfl
    exact dividesInto_words cs
  · intro h
    induction h with
    | gap hgap => exact words_gap hgap
    | word hgap hw hrest _ ih =>
      rw [List.append_assoc, words_gap_append hgap, words_word_append hw hrest, ih]

theorem words_eq_nil_iff : words cs = [] ↔ Gap cs := by
  rw [words_eq_iff]
  constructor
  · rintro (hgap | _)
    exact hgap
  · exact .gap

theorem existsUnique_dividesInto (cs : List Char) : ∃! ws, DividesInto cs ws :=
  ⟨words cs, dividesInto_words cs, fun _ h => (words_eq_iff.2 h).symm⟩

/-! ### Normal forms -/

theorem IsWord.exists_getLast? (h : IsWord w) : ∃ c ∈ w.getLast?, isBlank c = false :=
  ⟨w.getLast h.ne_nil, List.getLast?_eq_getLast_of_ne_nil h.ne_nil,
    h.unbroken _ (List.getLast_mem h.ne_nil)⟩

theorem exists_head?_intercalate (h : ∀ v ∈ w :: ws, IsWord v) :
    ∃ c ∈ ([' '].intercalate (w :: ws)).head?, isBlank c = false := by
  have hw := h w List.mem_cons_self
  obtain ⟨rest, hrest⟩ := prefix_intercalate w ws
  obtain ⟨c, w', rfl⟩ := List.exists_cons_of_ne_nil hw.ne_nil
  refine ⟨c, ?_, hw.unbroken c List.mem_cons_self⟩
  rw [← hrest]
  rfl

/-- Words at single blanks are in normal form. -/
theorem singlySpaced_intercalate (h : ∀ w ∈ ws, IsWord w) :
    SinglySpaced ([' '].intercalate ws) := by
  induction ws with
  | nil =>
    intro before b after hsplit
    rw [List.intercalate_nil] at hsplit
    simp at hsplit
  | cons w ws ih =>
    obtain ⟨hw, hws⟩ := List.forall_mem_cons.1 h
    intro before b after hsplit hb
    -- white space does not stand inside the first word
    have hout : ∀ front more, w = front ++ b :: more → False := by
      intro front more hw'
      have hmem : b ∈ w := hw' ▸ List.mem_append_right _ List.mem_cons_self
      rw [hw.unbroken b hmem] at hb
      cases hb
    cases ws with
    | nil =>
      rw [List.intercalate_singleton] at hsplit
      exact (hout before after hsplit).elim
    | cons w' ws =>
      rw [List.intercalate_cons_cons, List.append_assoc, List.singleton_append] at hsplit
      rcases List.append_eq_append_iff.1 hsplit with ⟨more, hbefore, hrest⟩ | ⟨more, hfront, hrest⟩
      · cases more with
        | nil =>
          -- this is the blank behind the first word
          obtain ⟨rfl, rfl⟩ := List.cons.inj hrest
          rw [List.append_nil] at hbefore
          rw [hbefore]
          exact ⟨rfl, hw.exists_getLast?, exists_head?_intercalate hws⟩
        | cons c more =>
          obtain ⟨rfl, hlater⟩ := List.cons.inj hrest
          obtain ⟨hblank, ⟨d, hd, hdblank⟩, hafter⟩ := ih hws more b after hlater hb
          refine ⟨hblank, ⟨d, ?_, hdblank⟩, hafter⟩
          rw [hbefore, List.getLast?_append, List.getLast?_cons, Option.mem_def.1 hd]
          rfl
      · cases more with
        | nil =>
          obtain ⟨rfl, rfl⟩ := List.cons.inj hrest
          rw [List.append_nil] at hfront
          rw [← hfront]
          exact ⟨rfl, hw.exists_getLast?, exists_head?_intercalate hws⟩
        | cons c more =>
          obtain ⟨rfl, -⟩ := List.cons.inj hrest
          exact (hout before more hfront).elim

theorem SinglySpaced.of_append (h : SinglySpaced (w ++ b :: rest)) (hb : isBlank b = true) :
    SinglySpaced rest := by
  intro before c after hrest hc
  have hsplit : w ++ b :: rest = (w ++ b :: before) ++ c :: after := by
    rw [hrest, List.append_assoc, List.cons_append]
  obtain ⟨hblank, ⟨d, hd, hdblank⟩, hafter⟩ := h _ c after hsplit hc
  refine ⟨hblank, ⟨d, ?_, hdblank⟩, hafter⟩
  rcases List.eq_nil_or_concat before with rfl | ⟨front, e, rfl⟩
  · -- then the blank would follow on another
    rw [List.getLast?_append_of_ne_nil _ (List.cons_ne_nil _ _)] at hd
    obtain rfl : b = d := Option.some.inj hd
    rw [hb] at hdblank
    cases hdblank
  · rw [List.concat_eq_append, ← List.cons_append, ← List.append_assoc, List.getLast?_concat] at hd
    rw [List.concat_eq_append, List.getLast?_concat]
    exact hd

/-- **Spacing leaves exactly the texts in normal form as they are.** -/
theorem spaced_eq_self_iff : spaced cs = cs ↔ SinglySpaced cs := by
  constructor
  · intro h
    rw [← h]
    exact singlySpaced_intercalate (isWord_of_mem_words cs)
  · intro h
    induction cs using divide_induction with
    | unbroken w hw => exact spaced_of_unbroken hw
    | divided w b rest hw hb ih =>
      -- the first blank is a space with a word on each side, as `spaced` would write it
      obtain ⟨rfl, ⟨c, hc, -⟩, ⟨d, hd, hdblank⟩⟩ := h w b rest rfl hb
      have hne : w ≠ [] := List.ne_nil_of_mem (List.mem_of_mem_getLast? hc)
      have hwords : words rest ≠ [] := by
        cases rest with
        | nil => cases hd
        | cons e rest =>
          obtain rfl : e = d := Option.some.inj hd
          exact words_cons_ne_nil hdblank rest
      rw [spaced_append_of_words_ne_nil ⟨hne, hw⟩ hb hwords, ih (h.of_append hb)]

end Text

open Text

/-- A text in normal form with the words of a question. -/
structure IsNormalForm (question text : String) : Prop where
  words : ∀ ws, DividesInto text.toList ws ↔ DividesInto question.toList ws
  singlySpaced : SinglySpaced text.toList

theorem gap_iff_not_hasWord {s : String} : Gap s.toList ↔ ¬ HasWord s := by
  rw [Gap, HasWord]
  simp only [not_exists, not_and, Bool.not_eq_false]

theorem normalizeQuestion_eq_empty_iff {question : String} :
    normalizeQuestion (some question) = "" ↔ ¬ HasWord question := by
  rw [← gap_iff_not_hasWord, ← words_eq_nil_iff, ← spaced_eq_nil_iff, ← toList_normalizeQuestion,
    ← String.toList_inj, String.toList_empty]

theorem dividesInto_same_iff {s t : String} :
    (∀ ws, DividesInto s.toList ws ↔ DividesInto t.toList ws) ↔ words s.toList = words t.toList := by
  simp only [← words_eq_iff]
  exact ⟨fun h => (h _).2 rfl, fun h ws => by rw [h]⟩

theorem normalizeQuestion_eq_iff {s t : String} :
    normalizeQuestion (some s) = normalizeQuestion (some t) ↔ words s.toList = words t.toList := by
  rw [← String.toList_inj, toList_normalizeQuestion, toList_normalizeQuestion]
  constructor
  · intro h
    rw [← words_intercalate (isWord_of_mem_words s.toList),
      ← words_intercalate (isWord_of_mem_words t.toList)]
    exact congrArg words h
  · intro h
    rw [spaced, spaced, h]

/-- Of all texts with the words of a question, normalizing finds the one in normal
form. -/
theorem isNormalForm_iff {question text : String} :
    IsNormalForm question text ↔ text = normalizeQuestion (some question) := by
  constructor
  · rintro ⟨hwords, hspaced⟩
    rw [← normalizeQuestion_eq_iff.2 (dividesInto_same_iff.1 hwords),
      normalizeQuestion_eq_self_iff.2 (spaced_eq_self_iff.2 hspaced)]
  · rintro rfl
    have hword := isWord_of_mem_words question.toList
    constructor
    · rw [dividesInto_same_iff, toList_normalizeQuestion]
      exact words_intercalate hword
    · rw [toList_normalizeQuestion]
      exact singlySpaced_intercalate hword

/-- **The normal form of a question is canonical.**  A question has one sequence of
words; its normal form is the one text that has the same words and no white space
but single blanks between them.  It is its own normal form, there is nothing to
strip from it, and white space around the question makes no difference.  It is
empty exactly if the question has no word, and two questions have the same normal
form exactly if they have the same words. -/
theorem normalizeQuestion_canonical (question : String) :
    (∃! ws, DividesInto question.toList ws) ∧
      (∀ text, IsNormalForm question text ↔ text = normalizeQuestion (some question)) ∧
      normalizeQuestion (some (normalizeQuestion (some question)))
        = normalizeQuestion (some question) ∧
      stripped (normalizeQuestion (some question)) = normalizeQuestion (some question) ∧
      normalizeQuestion (some (stripped question)) = normalizeQuestion (some question) ∧
      (normalizeQuestion (some question) = "" ↔ ¬ HasWord question) ∧
      ∀ other, normalizeQuestion (some question) = normalizeQuestion (some other) ↔
        ∃ ws, DividesInto question.toList ws ∧ DividesInto other.toList ws := by
  refine ⟨existsUnique_dividesInto _, fun text => isNormalForm_iff, ?_,
    stripped_normalizeQuestion _, ?_, normalizeQuestion_eq_empty_iff, ?_⟩
  · exact normalizeQuestion_eq_self_iff.2 (spaced_eq_self_iff.2 (isNormalForm_iff.2 rfl).singlySpaced)
  · rw [normalizeQuestion_eq_iff, stripped, String.toList_ofList, words_strip]
  · intro other
    rw [normalizeQuestion_eq_iff]
    simp only [← words_eq_iff]
    -- both say that the two questions have the same words
    constructor
    · exact fun h => ⟨_, rfl, h.symm⟩
    · rintro ⟨ws, h, h'⟩
      exact h.trans h'.symm

end TableQuery
