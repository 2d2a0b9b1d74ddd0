/-
TableQuery/Proofs/Text/Blank.lean

Texts that hold something besides white space.

Stripping leaves nothing of a text exactly if the text is white space only,
so a question is refused exactly then.
-/
import Mathlib.Data.List.Basic
import Mathlib.Data.List.TakeWhile
import TableQuery.Text.Blank

namespace TableQuery.Text

/-- Some character of a text is no white space. -/
def HasWord (s : String) : Prop := ∃ c ∈ s.toList, isBlank c = false

theorem HasWord.ne_empty {s : String} (h : HasWord s) : s ≠ "" := by
  rintro rfl
  obtain ⟨c, hc, -⟩ := h
  cases hc

theorem strip_eq_nil_iff {cs : List Char} : strip cs = [] ↔ ∀ c ∈ cs, isBlank c = true := by
  rw [strip, List.reverse_eq_nil_iff, List.dropWhile_eq_nil_iff]
  constructor
  · intro h
    rw [← List.dropWhile_eq_nil_iff]
    by_contra hne
    -- what is left after dropping starts with a character that is no white space
    have hhead := List.head_dropWhile_not isBlank hne
    rw [h _ (List.mem_reverse.2 (List.head_mem hne))] at hhead
    cases hhead
  · intro h c hc
    exact h c (List.dropWhile_sublist isBlank |>.subset (List.mem_reverse.1 hc))

/-- Nothing is dropped from a list whose first element stays. -/
theorem dropWhile_of_head? {α : Type} {p : α → Bool} {xs : List α}
    (h : ∀ x ∈ xs.head?, p x = false) : xs.dropWhile p = xs := by
  rcases xs with - | ⟨x, xs⟩
  · rfl
  · rw [List.dropWhile_cons, h x rfl, if_neg Bool.false_ne_true]

/-- A text is stripped if there is no white space at its ends. -/
theorem strip_of_ends {cs : List Char} (hfirst : ∀ c ∈ cs.head?, isBlank c = false)
    (hlast : ∀ c ∈ cs.getLast?, isBlank c = false) : strip cs = cs := by
  rw [strip, dropWhile_of_head? hfirst, dropWhile_of_head? ?_, List.reverse_reverse]
  intro c hc
  rw [List.head?_reverse] at hc
  exact hlast c hc

/-- What is stripped does not end in white space. -/
theorem isBlank_of_mem_getLast?_strip {cs : List Char} :
    ∀ c ∈ (strip cs).getLast?, isBlank c = false := by
  intro c hc
  rw [strip, List.getLast?_reverse] at hc
  have hhead := List.head?_dropWhile_not isBlank (cs.dropWhile isBlank).reverse
  rw [Option.mem_def.1 hc] at hhead
  exact hhead

/-- A text without the white space around it. -/
def stripped (s : String) : String := String.ofList (strip s.toList)

theorem stripped_ne_empty_iff {s : String} : stripped s ≠ "" ↔ HasWord s := by
  have hempty : stripped s = "" ↔ strip s.toList = [] := by
    rw [stripped, ← String.toList_inj, String.toList_ofList]
    rfl
  rw [Ne, hempty, strip_eq_nil_iff, HasWord]
  simp only [not_forall, Bool.not_eq_true, exists_prop]

/-- Something stripped behind a beginning without white space in front: nothing
is stripped from the whole. -/
theorem stripped_append {front s : String} (hfront : ∃ c ∈ front.toList.head?, isBlank c = false)
    (hne : s ≠ "") (hs : stripped s = s) : stripped (front ++ s) = front ++ s := by
  have hchars : strip s.toList = s.toList := by
    rw [← String.toList_inj, stripped, String.toList_ofList] at hs
    exact hs
  rw [stripped, String.toList_append, strip_of_ends, ← String.toList_append, String.ofList_toList]
  · obtain ⟨c, hc, hblank⟩ := hfront
    intro d hd
    rw [List.head?_append, Option.mem_def.1 hc, Option.some_or] at hd
    obtain rfl := Option.some.inj hd
    exact hblank
  · intro c hc
    have hnil : s.toList ≠ [] := fun h => hne (String.toList_inj.1 h)
    rw [List.getLast?_append_of_ne_nil _ hnil, ← hchars] at hc
    exact isBlank_of_mem_getLast?_strip c hc

end TableQuery.Text
