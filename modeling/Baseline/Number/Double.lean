/-!
# Binary64 numbers, exactly

Every finite binary64 number is a whole multiple of the *unit* `2 ^ (-1074)`.  A finite
`Double` is therefore a sign and a magnitude `mant * 2 ^ exp` counted in units, kept in its
one canonical form, and every operation below is exact arithmetic on whole numbers followed
by a single rounding to the nearest magnitude, a tie going to the even one.

* `Magnitude.round? num den` : the magnitude nearest to `num / den` units, if it is finite.
* `Double.units` : the exact value of a finite number, in units.
* `Double.ofInt?`, `Double.truncate?` : the passage from and to whole numbers.
* `Double.add`, `Double.sub`, `Double.mul`, `Double.div`, `Double.less` : arithmetic and order.
-/

set_option autoImplicit false

namespace Baseline

/-! ## Rounding whole quotients -/

/-- The whole number nearest to `num / den`; a tie goes to the even neighbour. -/
def roundDiv (num den : Nat) : Nat :=
  let q := num / den
  let r := num % den
  if 2 * r < den then q
  else if den < 2 * r then q + 1
  else if q % 2 = 0 then q else q + 1

theorem le_roundDiv (num den : Nat) : num / den ≤ roundDiv num den := by
  unfold roundDiv
  dsimp only
  split
  · exact Nat.le_refl _
  · split
    · exact Nat.le_succ _
    · split
      · exact Nat.le_refl _
      · exact Nat.le_succ _

/-! ## Magnitudes -/

/-- The magnitude `mant * 2 ^ exp`, in units, in canonical form: the mantissa has 53 bits
unless the exponent is the least one. -/
structure Magnitude where
  mant : Nat
  exp : Nat
  mant_lt : mant < Nat.pow 2 53
  normal : exp = 0 ∨ Nat.pow 2 52 ≤ mant
  exp_le : exp ≤ 2045
deriving DecidableEq, Repr

namespace Magnitude

/-- The magnitude of zero. -/
def zero : Magnitude := ⟨0, 0, by decide, .inl rfl, by decide⟩

/-- The largest finite magnitude. -/
def largest : Magnitude := ⟨Nat.pow 2 53 - 1, 2045, by decide, .inr (by decide), by decide⟩

/-- The exact size in units of `2 ^ (-1074)`. -/
def units (m : Magnitude) : Nat := m.mant * Nat.pow 2 m.exp

/-- How many low bits a whole number of units has beyond the 53 that are kept. -/
def excess (whole : Nat) : Nat := whole.log2 + 1 - 53

theorem le_roundDiv_excess (num den : Nat) :
    excess (num / den) = 0 ∨
      Nat.pow 2 52 ≤ roundDiv num (den * Nat.pow 2 (excess (num / den))) := by
  by_cases h : excess (num / den) = 0
  · exact .inl h
  · refine .inr (Nat.le_trans ?_ (le_roundDiv _ _))
    rw [← Nat.div_div_eq_div_mul]
    have hlog : (num / den).log2 = 52 + excess (num / den) := by
      unfold excess at h ⊢
      omega
    have hne : num / den ≠ 0 := by
      intro hz
      rw [hz] at hlog
      have hlog' := h
      rw [hz] at hlog'
      exact hlog' (by decide)
    have hpow : Nat.pow 2 52 * Nat.pow 2 (excess (num / den)) ≤ num / den := by
      rw [Nat.pow_eq, Nat.pow_eq, ← Nat.pow_add, ← hlog]
      exact Nat.log2_self_le hne
    exact (Nat.le_div_iff_mul_le (Nat.two_pow_pos _)).mpr hpow

/-- The magnitude nearest to `num / den` units, a tie going to the even mantissa; `none`
when that lies beyond the largest finite magnitude. -/
def round? (num den : Nat) : Option Magnitude :=
  let e := excess (num / den)
  let m := roundDiv num (den * Nat.pow 2 e)
  if hm : m < Nat.pow 2 53 then
    if he : e ≤ 2045 then some ⟨m, e, hm, le_roundDiv_excess num den, he⟩ else none
  else
    if he : e + 1 ≤ 2045 then
      some ⟨Nat.pow 2 52, e + 1, by decide, .inr (Nat.le_refl _), he⟩
    else none

end Magnitude

/-! ## Numbers -/

/-- A binary64 number; all NaNs are one. -/
inductive Double where
  | nan
  | inf (neg : Bool)
  | fin (neg : Bool) (mag : Magnitude)
deriving DecidableEq, Repr

namespace Double

/-- Positive zero. -/
def zero : Double := .fin false .zero

/-- One. -/
def one : Double := .fin false ⟨Nat.pow 2 52, 1022, by decide, .inr (Nat.le_refl _), by decide⟩

instance : Inhabited Double := ⟨zero⟩

/-- How many units make one. -/
def unitsPerOne : Nat := Nat.pow 2 1074

/-- The exact value in units, for a finite number. -/
def units? : Double → Option Int
  | .fin neg m => some (if neg then -(m.units : Int) else m.units)
  | _ => none

def isNan : Double → Bool
  | .nan => true
  | _ => false

def isFinite : Double → Bool
  | .fin _ _ => true
  | _ => false

/-- The sign bit; NaN counts as unsigned. -/
def isNegative : Double → Bool
  | .nan => false
  | .inf neg => neg
  | .fin neg _ => neg

/-- Whether the number is one of the two zeros. -/
def isZero : Double → Bool
  | .fin _ m => m.mant == 0
  | _ => false

/-- The number nearest to `± num / den` units; infinite beyond the finite range. -/
def ofQuotient (neg : Bool) (num den : Nat) : Double :=
  match Magnitude.round? num den with
  | some m => .fin neg m
  | none => .inf neg

/-- The number nearest to a whole number of units; zero is positive. -/
def ofUnits (n : Int) : Double := ofQuotient (n < 0) n.natAbs 1

/-! ## Whole numbers -/

/-- The number nearest to a whole number, or `none` when it is too large to be finite. -/
def ofInt? (n : Int) : Option Double :=
  (Magnitude.round? (n.natAbs * unitsPerOne) 1).map (.fin (n < 0))

/-- The whole part of a finite number, toward zero. -/
def truncate? (x : Double) : Option Int :=
  x.units?.map fun u => u.tdiv unitsPerOne

/-- The greatest whole number not above a finite number. -/
def floor? (x : Double) : Option Int :=
  x.units?.map fun u => u.fdiv unitsPerOne

/-- Whether a number is finite and whole. -/
def isWhole (x : Double) : Bool :=
  match x.units? with
  | some u => u % unitsPerOne == 0
  | none => false

/-! ## Arithmetic -/

/-- Change of sign. -/
def neg : Double → Double
  | .nan => .nan
  | .inf s => .inf (!s)
  | .fin s m => .fin (!s) m

/-- The rounded sum.  A zero sum of finite numbers is positive unless both terms carry a
minus sign. -/
def add : Double → Double → Double
  | .nan, _ => .nan
  | _, .nan => .nan
  | .inf s, .inf t => if s = t then .inf s else .nan
  | .inf s, .fin _ _ => .inf s
  | .fin _ _, .inf t => .inf t
  | .fin s a, .fin t b =>
    let sum : Int :=
      (if s then -(a.units : Int) else a.units) + (if t then -(b.units : Int) else b.units)
    if sum = 0 then .fin (s && t) .zero else ofUnits sum

/-- The rounded difference. -/
def sub (x y : Double) : Double := add x y.neg

/-- The rounded product. -/
def mul : Double → Double → Double
  | .nan, _ => .nan
  | _, .nan => .nan
  | .inf s, .inf t => .inf (s != t)
  | .inf s, .fin t m => if m.mant = 0 then .nan else .inf (s != t)
  | .fin s m, .inf t => if m.mant = 0 then .nan else .inf (s != t)
  | .fin s a, .fin t b => ofQuotient (s != t) (a.units * b.units) unitsPerOne

/-- The rounded quotient; dividing a nonzero number by zero gives infinity. -/
def div : Double → Double → Double
  | .nan, _ => .nan
  | _, .nan => .nan
  | .inf _, .inf _ => .nan
  | .inf s, .fin t _ => .inf (s != t)
  | .fin s _, .inf t => .fin (s != t) .zero
  | .fin s a, .fin t b =>
    if b.mant = 0 then (if a.mant = 0 then .nan else .inf (s != t))
    else ofQuotient (s != t) (a.units * unitsPerOne) b.units

/-! ## Order -/

/-- `x < y` as numbers: never with NaN, and the two zeros are equal. -/
def less : Double → Double → Bool
  | .nan, _ => false
  | _, .nan => false
  | .inf s, .inf t => s && !t
  | .inf s, .fin _ _ => s
  | .fin _ _, .inf t => !t
  | .fin s a, .fin t b =>
    decide ((if s then -(a.units : Int) else a.units) < (if t then -(b.units : Int) else b.units))

/-- Equality as numbers: NaN equals nothing, and the two zeros are equal. -/
def same : Double → Double → Bool
  | .nan, _ => false
  | _, .nan => false
  | .inf s, .inf t => s == t
  | .inf _, .fin _ _ => false
  | .fin _ _, .inf _ => false
  | .fin s a, .fin t b =>
    decide ((if s then -(a.units : Int) else a.units) = (if t then -(b.units : Int) else b.units))

/-! ## Reading decimals -/

/-- The number nearest to `± digits * 10 ^ exp`.  Exponents far outside the range are
decided before any power is formed. -/
def ofDecimal (neg : Bool) (digits : Nat) (exp : Int) : Double :=
  if digits = 0 then .fin neg .zero
  else if 310 < exp then .inf neg
  else if (digits.log2 : Int) + 1 + 3 * exp < -1100 then .fin neg .zero
  else if 0 ≤ exp then ofQuotient neg (digits * Nat.pow 10 exp.toNat * unitsPerOne) 1
  else ofQuotient neg (digits * unitsPerOne) (Nat.pow 10 (-exp).toNat)

end Double

end Baseline
