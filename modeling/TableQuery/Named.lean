/-
TableQuery/Named.lean

Named values in order of arrival.

Rows, settings, sheets and uploaded files are all lists of values under names.
A name keeps the place of its first arrival, and setting it again replaces its
value there; a name that was removed and comes back goes to the end.
-/

namespace TableQuery

/-- Sets the value of a name: in its place if the name is there, otherwise at
the end. -/
def setNamed {α : Type} (name : String) (value : α) : List (String × α) → List (String × α)
  | [] => [(name, value)]
  | (n, v) :: rest =>
    if n = name then (n, value) :: rest else (n, v) :: setNamed name value rest

/-- The value of a name. -/
def getNamed? {α : Type} (name : String) : List (String × α) → Option α
  | [] => none
  | (n, v) :: rest => if n = name then some v else getNamed? name rest

/-- Removes a name with its value. -/
def eraseNamed {α : Type} (name : String) : List (String × α) → List (String × α)
  | [] => []
  | (n, v) :: rest => if n = name then rest else (n, v) :: eraseNamed name rest

/-- Each name once, in order of first arrival, with the last of its values. -/
def latestNamed {α : Type} (values : List (String × α)) : List (String × α) :=
  values.foldl (fun kept (name, value) => setNamed name value kept) []

/-- Each name once, in order of first arrival, with the first of its values. -/
def firstNamed {α : Type} : List (String × α) → List (String × α)
  | [] => []
  | (n, v) :: rest => (n, v) :: (firstNamed rest).filter (·.1 ≠ n)

/-- The names, in order. -/
def namesOf {α : Type} (values : List (String × α)) : List String :=
  values.map (·.1)

/-! ### What setting and removing change -/

theorem setNamed_ne_nil {α : Type} (name : String) (value : α) (values : List (String × α)) :
    setNamed name value values ≠ [] := by
  cases values with
  | nil => simp [setNamed]
  | cons head rest =>
    rw [setNamed]
    split <;> simp

/-- A name that was set has its value. -/
@[simp] theorem getNamed?_setNamed_self {α : Type} (name : String) (value : α)
    (values : List (String × α)) : getNamed? name (setNamed name value values) = some value := by
  induction values with
  | nil => simp [setNamed, getNamed?]
  | cons head rest ih =>
    obtain ⟨n, v⟩ := head
    by_cases h : n = name
    · simp [setNamed, getNamed?, h]
    · simp [setNamed, getNamed?, h, ih]

/-- Setting a name leaves every other name alone. -/
theorem getNamed?_setNamed_of_ne {α : Type} {name other : String} (h : other ≠ name) (value : α)
    (values : List (String × α)) :
    getNamed? other (setNamed name value values) = getNamed? other values := by
  induction values with
  | nil => simp [setNamed, getNamed?, h.symm]
  | cons head rest ih =>
    obtain ⟨n, v⟩ := head
    by_cases hn : n = name
    · subst hn
      simp [setNamed, getNamed?, h.symm]
    · rw [setNamed, if_neg hn, getNamed?, getNamed?, ih]

/-- Removing a name leaves every other name alone. -/
theorem getNamed?_eraseNamed_of_ne {α : Type} {name other : String} (h : other ≠ name)
    (values : List (String × α)) :
    getNamed? other (eraseNamed name values) = getNamed? other values := by
  induction values with
  | nil => rfl
  | cons head rest ih =>
    obtain ⟨n, v⟩ := head
    by_cases hn : n = name
    · subst hn
      simp [eraseNamed, getNamed?, h.symm]
    · rw [eraseNamed, if_neg hn, getNamed?, getNamed?, ih]

end TableQuery
