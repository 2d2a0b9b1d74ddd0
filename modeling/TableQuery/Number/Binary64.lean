/-
TableQuery/Number/Binary64.lean

The binary64 numbers of the statistics, kept exactly.

Design.  Every finite binary64 value is a whole number of units of 2^-1074,
so a finite value is a sign and a natural number of units.  Which numbers of
units occur is the invariant `Representable`: at most 53 significant bits,
and less than 2^1024.  The invariant sits in the type, so a value built by
rounding carries its own proof.

Every operation is the exact result, rounded once: `roundUnits` takes an
exact quotient to the nearest representable magnitude (a tie goes to the even
one), `ofQuotient` adds the sign and the overflow to infinity.  Nothing here
touches machine floating point, so a statement about a sum or an average is a
statement about natural numbers.
-/

namespace TableQuery

/-! ### Rounding -/

/-- The quotient rounded to the nearest whole number; a half goes to the
even neighbour. -/
def roundQuotient (num den : Nat) : Nat :=
  let q := num / den
  let r := num % den
  if 2 * r < den then q
  else if den < 2 * r then q + 1
  else if q % 2 = 0 then q else q + 1

/-- Rounding never leaves the two whole numbers around the quotient. -/
theorem roundQuotient_eq_or (num den : Nat) :
    roundQuotient num den = num / den ∨ roundQuotient num den = num / den + 1 := by
  simp only [roundQuotient]
  split
  · exact .inl rfl
  · split
    · exact .inr rfl
    · split
      · exact .inl rfl
      · exact .inr rfl

namespace Binary64

/-- The number of units in one: values are counted in steps of 2^-1074. -/
def unitsPerOne : Nat := Nat.pow 2 1074

/-- Magnitudes stay below 2^1024; this is that bound in units. -/
def unitsBound : Nat := Nat.pow 2 2098

/-- How many low bits a magnitude of this size cannot use. -/
def unusedBits (units : Nat) : Nat := Nat.log2 units - 52

/-- A magnitude of 53 significant bits below the bound. -/
def Representable (units : Nat) : Prop :=
  units < unitsBound ∧ Nat.pow 2 (unusedBits units) ∣ units

instance (units : Nat) : Decidable (Representable units) :=
  inferInstanceAs (Decidable (_ ∧ _))

/-- The magnitude `num / den` units, rounded to 53 significant bits. -/
def roundUnits (num den : Nat) : Nat :=
  let step := Nat.pow 2 (unusedBits (num / den))
  roundQuotient num (den * step) * step

/-- A quotient has at most 53 bits above the ones its size cannot use. -/
theorem div_two_pow_unusedBits_lt (q : Nat) :
    q / Nat.pow 2 (unusedBits q) < Nat.pow 2 53 := by
  show q / 2 ^ unusedBits q < 2 ^ 53
  by_cases hq : q = 0
  · simp [hq]
  · rw [Nat.div_lt_iff_lt_mul (Nat.two_pow_pos _), ← Nat.pow_add]
    exact Nat.lt_of_lt_of_le Nat.lt_log2_self
      (Nat.pow_le_pow_right (by decide) (by simp only [unusedBits]; omega))

/-- At most 2^53 steps of 2^k are a multiple of what their size cannot use. -/
theorem two_pow_unusedBits_dvd {m k : Nat} (hm : m ≤ Nat.pow 2 53) :
    Nat.pow 2 (unusedBits (m * Nat.pow 2 k)) ∣ m * Nat.pow 2 k := by
  simp only [Nat.pow_eq] at hm ⊢
  rcases Nat.lt_or_eq_of_le hm with hlt | rfl
  · have hk : unusedBits (m * 2 ^ k) ≤ k := by
      by_cases h0 : m * 2 ^ k = 0
      · simp [unusedBits, h0]
      · have : m * 2 ^ k < 2 ^ (53 + k) := by
          rw [Nat.pow_add]
          exact Nat.mul_lt_mul_of_pos_right hlt (Nat.two_pow_pos k)
        have := (Nat.log2_lt h0).2 this
        simp only [unusedBits]; omega
    exact Nat.dvd_trans (Nat.pow_dvd_pow 2 hk) (Nat.dvd_mul_left _ _)
  · rw [← Nat.pow_add, unusedBits, Nat.log2_two_pow]
    exact Nat.pow_dvd_pow 2 (by omega)

/-- What rounding returns has 53 significant bits. -/
theorem unusedBits_dvd_roundUnits (num den : Nat) :
    Nat.pow 2 (unusedBits (roundUnits num den)) ∣ roundUnits num den := by
  refine two_pow_unusedBits_dvd ?_
  have hq := div_two_pow_unusedBits_lt (num / den)
  rw [Nat.div_div_eq_div_mul] at hq
  rcases roundQuotient_eq_or num (den * Nat.pow 2 (unusedBits (num / den))) with h | h <;> omega

end Binary64

/-! ### The numbers -/

/-- A binary64 number: a sign and a representable number of units, an
infinity, or no number at all.  Zero keeps its sign. -/
inductive Binary64 where
  | finite (negative : Bool) (units : Nat) (representable : Binary64.Representable units)
  | infinite (negative : Bool)
  | nan
  deriving DecidableEq

namespace Binary64

theorem unitsBound_pos : 0 < unitsBound := by
  unfold unitsBound
  apply Nat.pow_pos
  decide

theorem representable_zero : Representable 0 :=
  ⟨unitsBound_pos, Nat.dvd_zero _⟩

/-- Zero of either sign. -/
def zero (negative : Bool) : Binary64 :=
  .finite negative 0 representable_zero

instance : Inhabited Binary64 := ⟨zero false⟩

/-- The number nearest to `num / den` units, with this sign; past the largest
magnitude it is an infinity. -/
def ofUnits (negative : Bool) (num den : Nat) : Binary64 :=
  if h : roundUnits num den < unitsBound then
    .finite negative (roundUnits num den) ⟨h, unusedBits_dvd_roundUnits num den⟩
  else .infinite negative

/-- The number nearest to the quotient of two naturals, with this sign. -/
def ofQuotient (negative : Bool) (num den : Nat) : Binary64 :=
  ofUnits negative (num * unitsPerOne) den

/-- The number nearest to a whole number. -/
def ofInt (n : Int) : Binary64 :=
  ofQuotient (n < 0) n.natAbs 1

/-- The number nearest to `digits * 10 ^ exponent`.  Far outside the range the
answer is known without the power of ten. -/
def ofDecimal (negative : Bool) (digits : Nat) (exponent : Int) : Binary64 :=
  if digits = 0 then zero negative
  else match exponent with
    | .ofNat e => if 310 < e then .infinite negative else ofQuotient negative (digits * Nat.pow 10 e) 1
    | .negSucc e =>
      if Nat.log2 digits + 400 < e then zero negative
      else ofQuotient negative digits (Nat.pow 10 (e + 1))

def isNaN : Binary64 → Bool
  | .nan => true
  | _ => false

def isFinite : Binary64 → Bool
  | .finite .. => true
  | _ => false

/-! ### Order -/

/-- The value as a signed number of units. -/
def signed (negative : Bool) (units : Nat) : Int :=
  if negative then -(units : Int) else units

/-- The numeric order, in which both zeros are equal and nothing is less or
greater than `nan`. -/
def less : Binary64 → Binary64 → Bool
  | .finite n u _, .finite m v _ => signed n u < signed m v
  | .finite .., .infinite m => !m
  | .infinite n, .finite .. => n
  | .infinite n, .infinite m => n && !m
  | .nan, _ => false
  | _, .nan => false

/-- Three-way comparison by `less`. -/
def order (x y : Binary64) : Ordering :=
  if less x y then .lt else if less y x then .gt else .eq

/-! ### Arithmetic -/

/-- The exact sum, rounded once.  An exact sum of zero is negative only when
both terms are. -/
def add : Binary64 → Binary64 → Binary64
  | .finite n u _, .finite m v _ =>
    let s := signed n u + signed m v
    if s = 0 then zero (n && m) else ofUnits (s < 0) s.natAbs 1
  | .finite .., .infinite m => .infinite m
  | .infinite n, .finite .. => .infinite n
  | .infinite n, .infinite m => if n = m then .infinite n else .nan
  | .nan, _ => .nan
  | _, .nan => .nan

/-- The exact quotient by a count, rounded once. -/
def divCount : Binary64 → Nat → Binary64
  | .finite n u _, count => ofUnits n u count
  | .infinite n, _ => .infinite n
  | .nan, _ => .nan

/-- The number with the other sign. -/
def negate : Binary64 → Binary64
  | .finite n u h => .finite (!n) u h
  | .infinite n => .infinite (!n)
  | .nan => .nan

/-- The exact product, rounded once.  Zero times an infinity is no number. -/
def mul : Binary64 → Binary64 → Binary64
  | .finite n u _, .finite m v _ => ofUnits (n != m) (u * v) unitsPerOne
  | .finite n u _, .infinite m => if u = 0 then .nan else .infinite (n != m)
  | .infinite n, .finite m v _ => if v = 0 then .nan else .infinite (n != m)
  | .infinite n, .infinite m => .infinite (n != m)
  | .nan, _ => .nan
  | _, .nan => .nan

/-- The exact quotient, rounded once.  A quotient by zero is an infinity, or
no number if both are zero. -/
def div : Binary64 → Binary64 → Binary64
  | .finite n u _, .finite m v _ =>
    if v ≠ 0 then ofUnits (n != m) (u * unitsPerOne) v
    else if u = 0 then .nan else .infinite (n != m)
  | .finite n _ _, .infinite m => zero (n != m)
  | .infinite n, .finite m _ _ => .infinite (n != m)
  | .infinite _, .infinite _ => .nan
  | .nan, _ => .nan
  | _, .nan => .nan

/-- Whether the value is a whole number. -/
def isWhole : Binary64 → Bool
  | .finite _ u _ => u % unitsPerOne = 0
  | _ => false

/-- The whole part of a finite value, toward zero. -/
def truncate? : Binary64 → Option Int
  | .finite n u _ => some (signed n (u / unitsPerOne))
  | _ => none

end Binary64

end TableQuery
