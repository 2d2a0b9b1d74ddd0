/-
TableQuery/Proofs/Number/Sums.lean

Totals and averages, and what rounding does to them.

A total is rounded after every addition, so it is not the exact sum, and it can
end in an infinity.  Still it is monotone: greater numbers, one by one, have no
smaller total (`totalOf_mono`), because neither an addition nor a rounding turns
two numbers round.  So the average of some numbers lies between what the least
one alone and the greatest one alone would have in place of all of them.

Such an average of one number need not be that number.  It is as long as no sum
on the way is rounded (`ExactSums`): then the total is the exact sum
(`rank_totalOf`), and one rounding of an exact quotient does not leave the range
of the numbers.

Order and sums are both taken in signed units (`rank`), where an infinity has
the place right after the largest number.
-/
import Mathlib.Algebra.Order.BigOperators.Group.List
import Mathlib.Algebra.Order.Ring.Int
import Mathlib.Data.List.Infix
import TableQuery.Proofs.Number.Extremes
import TableQuery.Proofs.Number.Whole

namespace TableQuery

namespace Binary64

/-! ### The place in the order -/

/-- The place of a number in the order: its units with their sign, an infinity
right after the largest number. -/
def rank : Binary64 → ℤ
  | .finite negative units _ => signed negative units
  | .infinite negative => signed negative unitsBound
  | .nan => 0

theorem signed_lt {negative : Bool} {u bound : Nat} (h : u < bound) :
    signed negative u < bound := by
  rw [signed]
  split <;> omega

theorem neg_lt_signed {negative : Bool} {u bound : Nat} (h : u < bound) :
    -(bound : ℤ) < signed negative u := by
  rw [signed]
  split <;> omega

variable {x x' y y' z : Binary64}

/-- The order compares places. -/
theorem less_eq_decide_rank (hx : x.isNaN = false) (hy : y.isNaN = false) :
    x.less y = decide (x.rank < y.rank) := by
  have hbound := Int.natCast_pos.2 unitsBound_pos
  cases x with
  | nan => cases hx
  -- a finite number stands strictly between the places of the two infinities
  | finite n u hu =>
    cases y with
    | nan => cases hy
    | finite m v hv => rfl
    | infinite m =>
      cases m with
      | false => exact (decide_eq_true (signed_lt hu.1)).symm
      | true => exact (decide_eq_false (Int.lt_asymm (neg_lt_signed hu.1))).symm
  | infinite n =>
    cases y with
    | nan => cases hy
    | finite m v hv =>
      cases n with
      | false => exact (decide_eq_false (Int.lt_asymm (signed_lt hv.1))).symm
      | true => exact (decide_eq_true (neg_lt_signed hv.1)).symm
    | infinite m =>
      -- two infinities are compared by their signs alone
      have hbelow : signed true unitsBound < signed false unitsBound := by
        show -(unitsBound : ℤ) < unitsBound
        omega
      cases n with
      | false =>
        cases m with
        | false => exact (decide_eq_false (Int.lt_irrefl _)).symm
        | true => exact (decide_eq_false (Int.lt_asymm hbelow)).symm
      | true =>
        cases m with
        | false => exact (decide_eq_true hbelow).symm
        | true => exact (decide_eq_false (Int.lt_irrefl _)).symm

theorem AtMost.isNaN_left (h : x.AtMost y) : x.isNaN = false := by
  rcases h with hless | hequal
  · cases x with
    | nan => cases hless
    | _ => rfl
  · cases hequal with
    | _ => rfl

theorem AtMost.isNaN_right (h : x.AtMost y) : y.isNaN = false := by
  rcases h with hless | hequal
  · cases y with
    | nan => cases x <;> cases hless
    | _ => rfl
  · cases hequal with
    | _ => rfl

theorem atMost_iff_rank_le :
    x.AtMost y ↔ x.isNaN = false ∧ y.isNaN = false ∧ x.rank ≤ y.rank := by
  constructor
  · intro h
    have hnot := (atMost_iff h.isNaN_left h.isNaN_right).1 h
    rw [less_eq_decide_rank h.isNaN_right h.isNaN_left, decide_eq_false_iff_not, not_lt] at hnot
    exact ⟨h.isNaN_left, h.isNaN_right, hnot⟩
  · rintro ⟨hx, hy, hrank⟩
    rw [atMost_iff hx hy, less_eq_decide_rank hy hx, decide_eq_false_iff_not, not_lt]
    exact hrank

instance (x y : Binary64) : Decidable (x.AtMost y) := decidable_of_iff _ atMost_iff_rank_le.symm

theorem AtMost.trans (hxy : x.AtMost y) (hyz : y.AtMost z) : x.AtMost z := by
  rw [atMost_iff_rank_le] at hxy hyz ⊢
  exact ⟨hxy.1, hyz.2.1, hxy.2.2.trans hyz.2.2⟩

/-! ### Rounding with a sign -/

/-- An exact quotient in signed units, rounded; past the largest magnitude it is
the place of an infinity. -/
def rounded (num : ℤ) (den : Nat) : ℤ :=
  signed (num < 0) (min (roundUnits num.natAbs den) unitsBound)

theorem rounded_mono {m n : ℤ} (den : Nat) (h : m ≤ n) : rounded m den ≤ rounded n den := by
  apply signed_mono h
  · intro hm
    exact min_le_min_right _ (roundUnits_mono den (by omega))
  · intro hn
    exact min_le_min_right _ (roundUnits_mono den (by omega))

/-- A representable number is left as it is. -/
theorem rounded_of_representable {n : ℤ} {den : Nat} (hden : 0 < den)
    (h : Representable n.natAbs) : rounded (n * den) den = n := by
  have hsign : n * den < 0 ↔ n < 0 := by
    rw [mul_neg_iff]
    omega
  have hunits := signed_natAbs_mul n 1
  rw [rounded, Int.natAbs_mul, Int.natAbs_natCast, roundUnits_of_representable h hden,
    Nat.min_eq_left (Nat.le_of_lt h.1)]
  simp only [hsign]
  rwa [Nat.mul_one, Nat.cast_one, mul_one] at hunits

theorem rank_ofUnits (negative : Bool) (num den : Nat) :
    (ofUnits negative num den).rank = signed negative (min (roundUnits num den) unitsBound) := by
  rw [ofUnits]
  split
  · next hlt =>
    rw [Nat.min_eq_left (Nat.le_of_lt hlt)]
    rfl
  · next hge =>
    rw [Nat.min_eq_right (Nat.not_lt.1 hge)]
    rfl

/-! ### Sums and quotients -/

/-- The sum of finite numbers is the rounded sum of their places. -/
theorem rank_add (hx : x.isFinite = true) (hy : y.isFinite = true) :
    (x.add y).rank = rounded (x.rank + y.rank) 1 := by
  obtain ⟨n, u, hu, rfl⟩ := exists_of_isFinite hx
  obtain ⟨m, v, hv, rfl⟩ := exists_of_isFinite hy
  show (if signed n u + signed m v = 0 then zero (n && m)
    else ofUnits (signed n u + signed m v < 0) (signed n u + signed m v).natAbs 1).rank
      = rounded (signed n u + signed m v) 1
  split
  · next hzero =>
    have hround := rounded_of_representable Nat.one_pos (n := 0) representable_zero
    rw [Int.zero_mul] at hround
    rw [hzero, hround]
    exact signed_zero _
  · exact rank_ofUnits _ _ _

theorem representable_rank (hx : x.isFinite = true) : Representable x.rank.natAbs := by
  obtain ⟨n, u, hu, rfl⟩ := exists_of_isFinite hx
  rwa [rank, natAbs_signed]

/-- The place of a finite number is that of no infinity. -/
theorem isFinite_of_rank (hx : x.isNaN = false) (h : x.rank.natAbs < unitsBound) :
    x.isFinite = true := by
  cases x with
  | nan => cases hx
  | finite n u hu => rfl
  | infinite n =>
    rw [rank, natAbs_signed] at h
    exact absurd h (Nat.lt_irrefl _)

/-- The quotient of a finite number is the rounded quotient of its place. -/
theorem rank_divCount (hx : x.isFinite = true) {count : Nat} (hcount : 0 < count) :
    (x.divCount count).rank = rounded x.rank count := by
  obtain ⟨n, u, hu, rfl⟩ := exists_of_isFinite hx
  have hzero : u = 0 → min (roundUnits u count) unitsBound = 0 := by
    rintro rfl
    rw [roundUnits_eq_zero (by omega), Nat.zero_min]
  rw [divCount, rank_ofUnits, rank, rounded, natAbs_signed, signed_sign n hzero]

theorem isNaN_add (hx : x.isNaN = false) (hy : y.isFinite = true) : (x.add y).isNaN = false := by
  obtain ⟨m, v, hv, rfl⟩ := exists_of_isFinite hy
  cases x with
  | nan => cases hx
  | infinite n => rfl
  | finite n u hu =>
    simp only [add]
    split
    · rfl
    · exact isNaN_ofUnits _ _ _

theorem isNaN_divCount (hx : x.isNaN = false) (count : Nat) : (x.divCount count).isNaN = false := by
  cases x with
  | nan => cases hx
  | infinite n => rfl
  | finite n u hu => exact isNaN_ofUnits _ _ _

/-- A sum that is a binary64 number is not rounded. -/
theorem rank_add_of_representable (hx : x.isFinite = true) (hy : y.isFinite = true)
    (h : Representable (x.rank + y.rank).natAbs) :
    (x.add y).isFinite = true ∧ (x.add y).rank = x.rank + y.rank := by
  have hrank : (x.add y).rank = x.rank + y.rank := by
    have hround := rounded_of_representable Nat.one_pos h
    rw [Nat.cast_one, Int.mul_one] at hround
    rw [rank_add hx hy, hround]
  refine ⟨isFinite_of_rank (isNaN_add (isNaN_of_isFinite hx) hy) ?_, hrank⟩
  rw [hrank]
  exact h.1

/-- Nothing is below the negative infinity and nothing above the positive one. -/
theorem infinite_atMost (hx : x.isNaN = false) : (infinite true).AtMost x := by
  cases x with
  | nan => cases hx
  | finite n u hu => exact .inl rfl
  | infinite n =>
    cases n with
    | false => exact .inl rfl
    | true => exact .inr (.infinite true)

theorem atMost_infinite (hx : x.isNaN = false) : x.AtMost (infinite false) := by
  cases x with
  | nan => cases hx
  | finite n u hu => exact .inl rfl
  | infinite n =>
    cases n with
    | false => exact .inr (.infinite false)
    | true => exact .inl rfl

/-- Two numbers in order are finite, or one of them is the infinity on its side. -/
theorem AtMost.finite_or_infinite (h : x.AtMost y) :
    (x.isFinite = true ∧ y.isFinite = true) ∨ x = infinite true ∨ y = infinite false := by
  cases x with
  | nan => cases h.isNaN_left
  | infinite n =>
    cases n with
    -- nothing is below the lower infinity, and only itself above the upper one
    | true => exact .inr (.inl rfl)
    | false =>
      rcases h with hless | hequal
      · cases y <;> simp [less] at hless
      · cases hequal
        exact .inr (.inr rfl)
  | finite n u hu =>
    rcases h with hless | hequal
    · cases y with
      | nan => cases hless
      | finite m v hv => exact .inl ⟨rfl, rfl⟩
      | infinite m =>
        cases m with
        | false => exact .inr (.inr rfl)
        | true => cases hless
    · cases hequal
      exact .inl ⟨rfl, rfl⟩

/-- What lies between finite numbers is finite. -/
theorem AtMost.isFinite_of_between (hxy : x.AtMost y) (hyz : y.AtMost z) (hx : x.isFinite = true)
    (hz : z.isFinite = true) : y.isFinite = true := by
  rcases hxy.finite_or_infinite with ⟨-, hy⟩ | rfl | rfl
  · exact hy
  · cases hx
  · rcases hyz.finite_or_infinite with ⟨hy, -⟩ | hy | rfl
    · exact hy
    · cases hy
    · cases hz

theorem infinite_add (negative : Bool) (hy : y.isFinite = true) :
    (infinite negative).add y = infinite negative := by
  obtain ⟨m, v, hv, rfl⟩ := exists_of_isFinite hy
  rfl

/-- **Adding keeps the order**, as long as the numbers that are added are
finite. -/
theorem AtMost.add (hx : x.AtMost x') (hy : y.AtMost y') (hfinite : y.isFinite = true)
    (hfinite' : y'.isFinite = true) : (x.add y).AtMost (x'.add y') := by
  have hnan := isNaN_add hx.isNaN_left hfinite
  have hnan' := isNaN_add hx.isNaN_right hfinite'
  rcases hx.finite_or_infinite with ⟨hfx, hfx'⟩ | rfl | rfl
  · rw [atMost_iff_rank_le] at hx hy ⊢
    rw [rank_add hfx hfinite, rank_add hfx' hfinite']
    exact ⟨hnan, hnan', rounded_mono 1 (Int.add_le_add hx.2.2 hy.2.2)⟩
  · rw [infinite_add true hfinite]
    exact infinite_atMost hnan'
  · rw [infinite_add false hfinite']
    exact atMost_infinite hnan

/-- **Dividing by a count keeps the order.** -/
theorem AtMost.divCount (h : x.AtMost y) {count : Nat} (hcount : 0 < count) :
    (x.divCount count).AtMost (y.divCount count) := by
  have hnan := isNaN_divCount h.isNaN_left count
  have hnan' := isNaN_divCount h.isNaN_right count
  rcases h.finite_or_infinite with ⟨hfx, hfy⟩ | rfl | rfl
  · rw [atMost_iff_rank_le] at h ⊢
    rw [rank_divCount hfx hcount, rank_divCount hfy hcount]
    exact ⟨hnan, hnan', rounded_mono count h.2.2⟩
  · exact infinite_atMost hnan'
  · exact atMost_infinite hnan

end Binary64

/-! ### Totals -/

section Totals

open Binary64

variable {low high x : Binary64} {xs ys : List Binary64}

/-- Finite numbers in order. -/
abbrev AtMostFinite (x y : Binary64) : Prop :=
  x.AtMost y ∧ x.isFinite = true ∧ y.isFinite = true

/-- **Greater numbers, one by one, have no smaller total.** -/
theorem totalOf_mono (h : List.Forall₂ AtMostFinite xs ys) :
    (totalOf xs).AtMost (totalOf ys) := by
  refine List.rel_foldl ?_ (.inr (equal_zero false false)) h
  intro total total' htotal x y hxy
  exact htotal.add hxy.1 hxy.2.1 hxy.2.2

theorem totalOf_concat (xs : List Binary64) (x : Binary64) :
    totalOf (xs ++ [x]) = (totalOf xs).add x := by
  rw [totalOf, List.foldl_append]
  rfl

/-- No sum on the way has to be rounded: the numbers from the first up to any of
them have a sum that is a binary64 number. -/
def ExactSums (numbers : List Binary64) : Prop :=
  ∀ front, front <+: numbers → Representable (front.map rank).sum.natAbs

instance (numbers : List Binary64) : Decidable (ExactSums numbers) :=
  decidable_of_iff (∀ front ∈ numbers.inits, Representable (front.map rank).sum.natAbs)
    (forall_congr' fun front => by rw [List.mem_inits])

theorem ExactSums.of_concat (h : ExactSums (xs ++ [x])) : ExactSums xs :=
  fun front hfront => h front (hfront.trans (List.prefix_append xs [x]))

/-- Without rounding on the way, the total is the exact sum. -/
theorem rank_totalOf (hfinite : ∀ x ∈ xs, x.isFinite = true) (hexact : ExactSums xs) :
    (totalOf xs).isFinite = true ∧ (totalOf xs).rank = (xs.map rank).sum := by
  induction xs using List.reverseRecOn with
  | nil => exact ⟨rfl, signed_zero false⟩
  | append_singleton xs x ih =>
    have hx : x.isFinite = true := hfinite x (List.mem_append_right _ List.mem_cons_self)
    obtain ⟨htotal, hsum⟩ := ih (fun y hy => hfinite y (List.mem_append_left _ hy)) hexact.of_concat
    have hrepresentable := hexact (xs ++ [x]) (List.prefix_refl _)
    rw [List.map_append, List.sum_append, List.map_singleton, List.sum_singleton] at hrepresentable ⊢
    rw [totalOf_concat, ← hsum]
    rw [← hsum] at hrepresentable
    exact rank_add_of_representable htotal hx hrepresentable

/-! ### Averages -/

/-- The average of as many numbers, computed from their total. -/
def averageOf (numbers : List Binary64) : Binary64 :=
  (totalOf numbers).divCount numbers.length

/-- Numbers that are nowhere below others have no smaller average. -/
theorem averageOf_mono (hne : xs ≠ []) (h : List.Forall₂ AtMostFinite xs ys) :
    (averageOf xs).AtMost (averageOf ys) := by
  rw [averageOf, averageOf, ← h.length_eq]
  exact (totalOf_mono h).divCount (List.length_pos_of_ne_nil hne)

/-- The rounded quotient of a multiple of a number is the number. -/
theorem rounded_rank_mul (hx : x.isFinite = true) {count : Nat} (hcount : 0 < count) :
    rounded (count • x.rank) count = x.rank := by
  rw [nsmul_eq_mul, Int.mul_comm]
  exact rounded_of_representable hcount (representable_rank hx)

/-- Without rounding on the way, an average is the exact one, rounded once. -/
theorem rank_averageOf (hne : xs ≠ []) (hfinite : ∀ x ∈ xs, x.isFinite = true)
    (hexact : ExactSums xs) :
    (averageOf xs).isNaN = false ∧
      (averageOf xs).rank = rounded (xs.map rank).sum xs.length := by
  obtain ⟨htotal, hsum⟩ := rank_totalOf hfinite hexact
  rw [averageOf, rank_divCount htotal (List.length_pos_of_ne_nil hne), hsum]
  exact ⟨isNaN_divCount (isNaN_of_isFinite htotal) _, rfl⟩

/-- **Without rounding on the way, an average is not below the numbers**, -/
theorem atMost_averageOf (hne : xs ≠ []) (hexact : ExactSums xs)
    (hlow : ∀ x ∈ xs, AtMostFinite low x) : low.AtMost (averageOf xs) := by
  obtain ⟨y, hy⟩ := List.exists_mem_of_ne_nil xs hne
  obtain ⟨hnan, hrank⟩ := rank_averageOf hne (fun x hx => (hlow x hx).2.2) hexact
  rw [atMost_iff_rank_le, hrank, ← rounded_rank_mul (hlow y hy).2.1 (List.length_pos_of_ne_nil hne)]
  refine ⟨(hlow y hy).1.isNaN_left, hnan, rounded_mono _ ?_⟩
  rw [← List.length_map rank]
  apply List.card_nsmul_le_sum
  intro r hr
  obtain ⟨x, hx, rfl⟩ := List.mem_map.1 hr
  exact (atMost_iff_rank_le.1 (hlow x hx).1).2.2

/-- nor above them. -/
theorem averageOf_atMost (hne : xs ≠ []) (hexact : ExactSums xs)
    (hhigh : ∀ x ∈ xs, AtMostFinite x high) : (averageOf xs).AtMost high := by
  obtain ⟨y, hy⟩ := List.exists_mem_of_ne_nil xs hne
  obtain ⟨hnan, hrank⟩ := rank_averageOf hne (fun x hx => (hhigh x hx).2.1) hexact
  rw [atMost_iff_rank_le, hrank,
    ← rounded_rank_mul (hhigh y hy).2.2 (List.length_pos_of_ne_nil hne)]
  refine ⟨hnan, (hhigh y hy).1.isNaN_right, rounded_mono _ ?_⟩
  rw [← List.length_map rank]
  apply List.sum_le_card_nsmul
  intro r hr
  obtain ⟨x, hx, rfl⟩ := List.mem_map.1 hr
  exact (atMost_iff_rank_le.1 (hhigh x hx).1).2.2

/-- The average of as many times one number as there are others. -/
def levelAverage (count : Nat) (x : Binary64) : Binary64 := averageOf (List.replicate count x)

theorem levelAverage_atMost (hne : xs ≠ []) (hlow : ∀ x ∈ xs, AtMostFinite low x) :
    (levelAverage xs.length low).AtMost (averageOf xs) := by
  rw [levelAverage, ← List.map_const']
  apply averageOf_mono
  · exact mt List.map_eq_nil_iff.1 hne
  · rw [List.forall₂_map_left_iff, List.forall₂_same]
    exact hlow

theorem atMost_levelAverage (hne : xs ≠ []) (hhigh : ∀ x ∈ xs, AtMostFinite x high) :
    (averageOf xs).AtMost (levelAverage xs.length high) := by
  rw [levelAverage, ← List.map_const']
  apply averageOf_mono hne
  rw [List.forall₂_map_right_iff, List.forall₂_same]
  exact hhigh

end Totals

end TableQuery
