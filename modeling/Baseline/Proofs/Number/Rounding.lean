import Baseline.Number.Double
import Mathlib.Tactic.Ring
import Mathlib.Tactic.Linarith

/-!
# Rounding depends on the quotient alone

A number is read from a quotient of whole numbers by one rounding.  What stands above and
below the line does not matter, only their ratio does:

* `Magnitude.round?_mul_right` : both may be multiplied by the same number.
* `Magnitude.round?_units` : a magnitude is rounded to itself.
* `Double.ofDecimal_eq_ofQuotient` : the early decisions on very large and very small decimals
  agree with rounding their exact value.
* `Double.ofDecimal_mul_pow_ten` : zeros may be moved between the digits and the exponent.
-/

set_option autoImplicit false

namespace Baseline

/-! ## Whole quotients -/

theorem roundDiv_mul_right (num den : Nat) {k : Nat} (hk : 0 < k) :
    roundDiv (num * k) (den * k) = roundDiv num den := by
  have hr : num * k % (den * k) = num % den * k := Nat.mul_mod_mul_right k num den
  have hlow : 2 * (num % den * k) < den * k ↔ 2 * (num % den) < den := by
    rw [← Nat.mul_assoc, Nat.mul_lt_mul_right hk]
  have hhigh : den * k < 2 * (num % den * k) ↔ den < 2 * (num % den) := by
    rw [← Nat.mul_assoc, Nat.mul_lt_mul_right hk]
  unfold roundDiv
  rw [Nat.mul_div_mul_right num den hk, hr]
  simp only [hlow, hhigh]

theorem roundDiv_one (num : Nat) : roundDiv num 1 = num := by
  simp [roundDiv, Nat.mod_one]

/-- A quotient of at most one half goes to zero, and no other. -/
theorem roundDiv_eq_zero_iff {num den : Nat} (hden : 0 < den) :
    roundDiv num den = 0 ↔ 2 * num ≤ den := by
  unfold roundDiv
  dsimp only
  constructor
  · intro h
    have hq : num / den = 0 := by
      split at h
      · exact h
      · split at h
        · cases h
        · split at h
          · exact h
          · cases h
    have hlt := Nat.lt_of_div_eq_zero hden hq
    rw [hq, Nat.mod_eq_of_lt hlt] at h
    split at h
    · omega
    · split at h
      · cases h
      · omega
  · intro h
    have hlt : num < den := by omega
    rw [Nat.div_eq_of_lt hlt, Nat.mod_eq_of_lt hlt]
    split
    · rfl
    · rw [if_neg (by omega), if_pos rfl]

/-! ## Magnitudes -/

namespace Magnitude

theorem excess_eq_zero {whole : Nat} (h : whole < 2 ^ 53) : excess whole = 0 := by
  unfold excess
  rcases Nat.eq_zero_or_pos whole with rfl | hpos
  · rfl
  · have := (Nat.log2_lt (Nat.ne_of_gt hpos)).mpr h
    omega

theorem excess_mul_pow {mant exp : Nat} (hlow : 2 ^ 52 ≤ mant) (hhigh : mant < 2 ^ 53) :
    excess (mant * 2 ^ exp) = exp := by
  have hne : mant * 2 ^ exp ≠ 0 := by positivity
  have hle : 52 + exp ≤ (mant * 2 ^ exp).log2 := by
    rw [Nat.le_log2 hne, Nat.pow_add]
    exact Nat.mul_le_mul_right _ hlow
  have hlt : (mant * 2 ^ exp).log2 < 53 + exp := by
    rw [Nat.log2_lt hne, Nat.pow_add]
    exact Nat.mul_lt_mul_of_pos_right hhigh (Nat.two_pow_pos exp)
  unfold excess
  omega

/-- The rounded magnitude depends on the quotient alone. -/
theorem round?_mul_right (num den : Nat) {k : Nat} (hk : 0 < k) :
    round? (num * k) (den * k) = round? num den := by
  have hround : ∀ e, roundDiv (num * k) (den * k * e) = roundDiv num (den * e) := by
    intro e
    rw [Nat.mul_right_comm den k e]
    exact roundDiv_mul_right num (den * e) hk
  unfold round?
  simp only [Nat.mul_div_mul_right num den hk, hround]

/-- Zero has one magnitude. -/
theorem eq_zero_of_mant {m : Magnitude} (h : m.mant = 0) : m = zero := by
  obtain ⟨mant, exp, hlt, hnormal, hle⟩ := m
  simp only at h
  subst h
  rcases hnormal with rfl | hbig
  · rfl
  · exact absurd hbig (by decide)

/-- **A magnitude rounds to itself.** -/
theorem round?_units (m : Magnitude) : round? m.units 1 = some m := by
  obtain ⟨mant, exp, hlt, hnormal, hle⟩ := m
  have he : excess (mant * Nat.pow 2 exp / 1) = exp := by
    rw [Nat.div_one]
    rcases hnormal with rfl | hbig
    · simpa using excess_eq_zero hlt
    · exact excess_mul_pow hbig hlt
  have hm : roundDiv (mant * Nat.pow 2 exp) (1 * Nat.pow 2 exp) = mant := by
    have hpos : 0 < Nat.pow 2 exp := Nat.two_pow_pos exp
    rw [roundDiv_mul_right mant 1 hpos, roundDiv_one]
  unfold round? units
  simp only [he, hm, dif_pos hlt, dif_pos hle]

theorem round?_eq_zero {num den : Nat} (hden : 0 < den) (h : 2 * num ≤ den) :
    round? num den = some zero := by
  have he : excess (num / den) = 0 := by
    rw [Nat.div_eq_of_lt (by omega)]
    rfl
  have hm : roundDiv num (den * Nat.pow 2 0) = 0 := by
    rw [show den * Nat.pow 2 0 = den from Nat.mul_one den]
    exact (roundDiv_eq_zero_iff hden).mpr h
  unfold round?
  simp only [he, hm]
  rfl

/-- **What rounds to zero**: a quotient of at most half a unit. -/
theorem mant_eq_zero_iff {num den : Nat} {m : Magnitude} (hden : 0 < den)
    (h : round? num den = some m) : m.mant = 0 ↔ 2 * num ≤ den := by
  refine ⟨fun hzero => ?_, fun hle => ?_⟩
  · have hbig := le_roundDiv_excess num den
    unfold round? at h
    dsimp only at h
    split at h
    · split at h <;> cases h
      dsimp only at hzero
      have he := hbig.resolve_right fun hbig =>
        absurd (Nat.le_trans hbig (Nat.le_of_eq hzero)) (by decide)
      rw [he, show den * Nat.pow 2 0 = den from Nat.mul_one den] at hzero
      exact (roundDiv_eq_zero_iff hden).mp hzero
    · split at h <;> cases h
      exact absurd hzero (Nat.ne_of_gt (Nat.two_pow_pos 52))
  · rw [round?_eq_zero hden hle] at h
    cases h
    rfl

/-- Up to the largest exponent everything is finite. -/
theorem round?_isSome {num den : Nat} (h : (num / den).log2 ≤ 2096) :
    ∃ m, round? num den = some m := by
  have he : excess (num / den) + 1 ≤ 2045 := by
    unfold excess
    omega
  have he' : excess (num / den) ≤ 2045 := by omega
  simp only [round?, he, he', dite_true]
  split <;> exact ⟨_, rfl⟩

/-- Beyond the largest exponent nothing is finite. -/
theorem round?_eq_none {num : Nat} (h : 2099 ≤ num.log2) : round? num 1 = none := by
  have he : 2045 < excess (num / 1) := by
    rw [Nat.div_one]
    unfold excess
    omega
  have hno : ¬excess (num / 1) ≤ 2045 := by omega
  have hno' : ¬excess (num / 1) + 1 ≤ 2045 := by omega
  unfold round?
  simp only [hno, hno', dite_false, dite_eq_ite, ite_self]

end Magnitude

/-! ## Decimals -/

namespace Double

/-- One is this power of two in units. -/
def unitExponent : Nat := 1074

theorem unitsPerOne_eq : unitsPerOne = 2 ^ unitExponent := by decide +kernel

theorem unitsPerOne_pos : 0 < unitsPerOne := by decide +kernel

theorem ofQuotient_of_some {num den : Nat} {m : Magnitude} (neg : Bool)
    (h : Magnitude.round? num den = some m) : ofQuotient neg num den = .fin neg m := by
  unfold ofQuotient
  rw [h]

theorem ofQuotient_of_none {num den : Nat} (neg : Bool)
    (h : Magnitude.round? num den = none) : ofQuotient neg num den = .inf neg := by
  unfold ofQuotient
  rw [h]

/-- The double nearest to a whole number, or zero where that is not finite. -/
def ofWhole (n : Int) : Double := (ofInt? n).getD .zero

/-- A whole number below `2 ^ 54` in absolute value is close enough to a double. -/
theorem ofInt?_isSome {n : Int} (h : n.natAbs < 2 ^ 54) : ∃ x, ofInt? n = some x := by
  have hlog : (n.natAbs * unitsPerOne / 1).log2 ≤ 2096 := by
    rw [Nat.div_one]
    rcases Nat.eq_zero_or_pos (n.natAbs * unitsPerOne) with hzero | hpos
    · rw [hzero]
      decide
    · have hlt : n.natAbs * unitsPerOne < 2 ^ (54 + unitExponent) := by
        rw [Nat.pow_add, ← unitsPerOne_eq]
        exact Nat.mul_lt_mul_of_pos_right h unitsPerOne_pos
      rw [← Nat.log2_lt (Nat.ne_of_gt hpos), unitExponent] at hlt
      omega
  obtain ⟨m, hm⟩ := Magnitude.round?_isSome hlog
  exact ⟨.fin (n < 0) m, by rw [ofInt?, hm, Option.map_some]⟩

theorem ofDecimal_zero (neg : Bool) (exp : Int) : ofDecimal neg 0 exp = .fin neg .zero := by
  unfold ofDecimal
  rw [if_pos rfl]

/-- `10 ^ 311` is beyond the finite range, also in units. -/
theorem log2_decimal_ge {digits : Nat} {exp : Int} (hd : digits ≠ 0) (he : 310 < exp) :
    2099 ≤ (digits * Nat.pow 10 exp.toNat * unitsPerOne).log2 := by
  obtain ⟨top, k, htop, hk, hten⟩ : ∃ top k, top = 2099 ∧ k ≤ exp.toNat ∧
      Nat.pow 2 top ≤ Nat.pow 10 k * unitsPerOne := ⟨2099, 311, rfl, by omega, by decide +kernel⟩
  have hpow : Nat.pow 10 k ≤ digits * Nat.pow 10 exp.toNat :=
    Nat.le_trans (Nat.pow_le_pow_right (by decide) hk)
      (Nat.le_mul_of_pos_left _ (Nat.pos_of_ne_zero hd))
  have hbig : Nat.pow 2 top ≤ digits * Nat.pow 10 exp.toNat * unitsPerOne :=
    Nat.le_trans hten (Nat.mul_le_mul_right _ hpow)
  have hne : digits * Nat.pow 10 exp.toNat * unitsPerOne ≠ 0 :=
    Nat.ne_of_gt (Nat.lt_of_lt_of_le (Nat.two_pow_pos top) hbig)
  rw [← htop]
  exact (Nat.le_log2 hne).mpr hbig

/-- Below the early bound a decimal is less than half a unit. -/
theorem decimal_lt_half_unit {digits : Nat} {exp : Int}
    (he : (digits.log2 : Int) + 1 + 3 * exp < -1100) :
    2 * (digits * Nat.pow 10 exp.toNat * unitsPerOne) < Nat.pow 10 (-exp).toNat := by
  obtain ⟨k, hk⟩ : ∃ k : Nat, (-exp).toNat = k := ⟨_, rfl⟩
  have hexp : exp.toNat = 0 := by omega
  have hlen : digits.log2 + 1 + 1100 < 3 * k := by omega
  have hdigits : digits < 2 ^ (digits.log2 + 1) := Nat.lt_log2_self
  obtain ⟨j, hj, hunits⟩ : ∃ j, j = 1075 ∧ 2 * unitsPerOne = Nat.pow 2 j :=
    ⟨1075, rfl, by decide +kernel⟩
  rw [hk, hexp]
  calc 2 * (digits * Nat.pow 10 0 * unitsPerOne)
      = digits * (2 * unitsPerOne) := by
        rw [show Nat.pow 10 0 = 1 from rfl, Nat.mul_one, Nat.mul_left_comm]
    _ = digits * Nat.pow 2 j := by rw [hunits]
    _ < 2 ^ (digits.log2 + 1) * Nat.pow 2 j :=
        Nat.mul_lt_mul_of_pos_right hdigits (Nat.two_pow_pos j)
    _ = 2 ^ (digits.log2 + 1 + j) := (Nat.pow_add 2 _ _).symm
    _ ≤ 2 ^ (3 * k) := Nat.pow_le_pow_right (by decide) (by omega)
    _ = 8 ^ k := by rw [Nat.pow_mul]
    _ ≤ 10 ^ k := Nat.pow_le_pow_left (by decide) k

/-- **The early decisions agree with rounding the exact value of a decimal.** -/
theorem ofDecimal_eq_ofQuotient (neg : Bool) {digits : Nat} (hd : digits ≠ 0) (exp : Int) :
    ofDecimal neg digits exp =
      ofQuotient neg (digits * Nat.pow 10 exp.toNat * unitsPerOne) (Nat.pow 10 (-exp).toNat) := by
  have hone : Nat.pow 10 0 = 1 := rfl
  unfold ofDecimal
  rw [if_neg hd]
  by_cases hbig : 310 < exp
  · rw [if_pos hbig, show (-exp).toNat = 0 by omega, hone,
      ofQuotient_of_none neg (Magnitude.round?_eq_none (log2_decimal_ge hd hbig))]
  rw [if_neg hbig]
  by_cases hsmall : (digits.log2 : Int) + 1 + 3 * exp < -1100
  · have hten : 0 < Nat.pow 10 (-exp).toNat := Nat.pow_pos (by decide)
    have hzero := Magnitude.round?_eq_zero hten (Nat.le_of_lt (decimal_lt_half_unit hsmall))
    rw [if_pos hsmall, ofQuotient_of_some neg hzero]
  rw [if_neg hsmall]
  by_cases hexp : 0 ≤ exp
  · rw [if_pos hexp, show (-exp).toNat = 0 by omega, hone]
  · rw [if_neg hexp, show exp.toNat = 0 by omega, hone, Nat.mul_one]

theorem ofQuotient_mul_right (neg : Bool) (num den : Nat) {k : Nat} (hk : 0 < k) :
    ofQuotient neg (num * k) (den * k) = ofQuotient neg num den := by
  unfold ofQuotient
  rw [Magnitude.round?_mul_right num den hk]

/-- **A zero at the end of the digits does not matter.** -/
theorem ofDecimal_mul_ten (neg : Bool) (digits : Nat) (exp : Int) :
    ofDecimal neg (digits * 10) (exp - 1) = ofDecimal neg digits exp := by
  by_cases hd : digits = 0
  · subst hd
    rw [Nat.zero_mul, ofDecimal_zero, ofDecimal_zero]
  rw [ofDecimal_eq_ofQuotient neg hd, ofDecimal_eq_ofQuotient neg (by omega)]
  generalize unitsPerOne = units
  by_cases he : 0 < exp
  · obtain ⟨k, rfl⟩ : ∃ k : Nat, exp = k + 1 := ⟨(exp - 1).toNat, by omega⟩
    rw [show ((k : Int) + 1 - 1).toNat = k by omega, show ((k : Int) + 1).toNat = k + 1 by omega,
      show (-((k : Int) + 1 - 1)).toNat = 0 by omega, show (-((k : Int) + 1)).toNat = 0 by omega,
      show Nat.pow 10 (k + 1) = Nat.pow 10 k * 10 from rfl]
    congr 1
    ring
  · obtain ⟨k, rfl⟩ : ∃ k : Nat, exp = -k := ⟨(-exp).toNat, by omega⟩
    rw [show (-(k : Int) - 1).toNat = 0 by omega, show (-(k : Int)).toNat = 0 by omega,
      show (-(-(k : Int) - 1)).toNat = k + 1 by omega, show (-(-(k : Int))).toNat = k by omega,
      show Nat.pow 10 (k + 1) = Nat.pow 10 k * 10 from rfl,
      ← ofQuotient_mul_right neg (digits * Nat.pow 10 0 * units) _ (show 0 < 10 by decide)]
    congr 1
    ring

theorem ofDecimal_mul_pow_ten (neg : Bool) (digits : Nat) (exp : Int) (k : Nat) :
    ofDecimal neg (digits * Nat.pow 10 k) (exp - k) = ofDecimal neg digits exp := by
  induction k with
  | zero => simp
  | succ k ih =>
    rw [← ih, ← ofDecimal_mul_ten neg (digits * Nat.pow 10 k) (exp - k)]
    congr 1
    · rw [Nat.mul_assoc]; rfl
    · omega

/-- Reading an unsigned decimal settles the signed ones. -/
theorem ofDecimal_neg {digits : Nat} {exp : Int} {m : Magnitude} (neg : Bool)
    (h : ofDecimal false digits exp = .fin false m) :
    ofDecimal neg digits exp = .fin neg m := by
  by_cases hd : digits = 0
  · subst hd
    rw [ofDecimal_zero] at h ⊢
    cases h
    rfl
  rw [ofDecimal_eq_ofQuotient _ hd] at h ⊢
  generalize digits * Nat.pow 10 exp.toNat * unitsPerOne = num at *
  cases hround : Magnitude.round? num (Nat.pow 10 (-exp).toNat) with
  | none =>
    rw [ofQuotient_of_none _ hround] at h
    cases h
  | some r =>
    rw [ofQuotient_of_some _ hround] at h ⊢
    cases h
    rfl

end Double

end Baseline
