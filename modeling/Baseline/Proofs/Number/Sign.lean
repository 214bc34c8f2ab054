import Baseline.Proofs.Number.Rounding

/-!
# Signs

* `Double.AtLeastZero` : `0 ≤ x` as numbers.
* `Double.sub_eq_nan_iff` : a finite number less another is NaN only when the other is.
* `Double.atLeastZero_div_iff` : a quotient has the sign of its divisor, unless it vanishes.
-/

set_option autoImplicit false

namespace Baseline

namespace Double

/-! ## Signs -/

/-- `0 ≤ x` as numbers: never with NaN, and also for minus zero. -/
def AtLeastZero (x : Double) : Prop := zero.less x = true ∨ zero.same x = true

instance (x : Double) : Decidable x.AtLeastZero :=
  inferInstanceAs (Decidable (zero.less x = true ∨ zero.same x = true))

theorem units_eq_zero_iff {m : Magnitude} : m.units = 0 ↔ m.mant = 0 := by
  unfold Magnitude.units
  have hpos : Nat.pow 2 m.exp ≠ 0 := Nat.ne_of_gt (Nat.two_pow_pos _)
  rw [Nat.mul_eq_zero, or_iff_left hpos]

theorem not_atLeastZero_nan : ¬ AtLeastZero .nan := by
  unfold AtLeastZero
  decide

theorem atLeastZero_inf_iff (neg : Bool) : AtLeastZero (.inf neg) ↔ neg = false := by
  cases neg <;> unfold AtLeastZero <;> decide

theorem atLeastZero_fin_iff (neg : Bool) (m : Magnitude) :
    AtLeastZero (.fin neg m) ↔ neg = false ∨ m.mant = 0 := by
  have hzero : Magnitude.zero.units = 0 := rfl
  have hunits := units_eq_zero_iff (m := m)
  simp only [AtLeastZero, zero, less, same, hzero, decide_eq_true_eq, ← hunits]
  cases neg
  · simp only [Bool.false_eq_true, if_false, true_or, iff_true]
    omega
  · simp only [if_true, Bool.true_eq_false, false_or]
    omega

/-- A number that is not below zero is at least zero, unless it is NaN. -/
theorem atLeastZero_iff {x : Double} : x.AtLeastZero ↔ x ≠ .nan ∧ x.less .zero = false := by
  cases x with
  | nan => simp [not_atLeastZero_nan]
  | inf neg => cases neg <;> simp [atLeastZero_inf_iff, less, zero]
  | fin neg m =>
    have hzero : Magnitude.zero.units = 0 := rfl
    have hunits := units_eq_zero_iff (m := m)
    simp only [atLeastZero_fin_iff, less, zero, hzero, ← hunits, ne_eq, reduceCtorEq,
      not_false_eq_true, true_and, decide_eq_false_iff_not]
    cases neg
    · simp only [Bool.false_eq_true, if_false, true_or, true_iff]
      omega
    · simp only [if_true, Bool.true_eq_false, false_or]
      omega

/-! ## Differences and quotients -/

theorem ofQuotient_ne_nan (neg : Bool) (num den : Nat) : ofQuotient neg num den ≠ .nan := by
  unfold ofQuotient
  split <;> exact fun h => by cases h

theorem add_fin_ne_nan (s t : Bool) (a b : Magnitude) : add (.fin s a) (.fin t b) ≠ .nan := by
  rw [add]
  generalize (if s then -(a.units : Int) else a.units) + (if t then -(b.units : Int) else b.units)
    = sum
  split
  · exact fun h => by cases h
  · exact ofQuotient_ne_nan _ _ _

theorem ne_nan_of_isFinite {x : Double} (hx : x.isFinite = true) : x ≠ .nan := by
  rintro rfl
  cases hx

/-- A finite number less another is NaN only when the other is. -/
theorem sub_eq_nan_iff {x : Double} (hx : x.isFinite = true) (y : Double) :
    x.sub y = .nan ↔ y = .nan := by
  cases x with
  | nan => cases hx
  | inf neg => cases hx
  | fin neg m =>
    cases y with
    | nan => exact ⟨fun _ => rfl, fun _ => rfl⟩
    | inf s => simp [sub, Double.neg, add]
    | fin s b => exact iff_of_false (add_fin_ne_nan _ _ _ _) (by simp)

/-- A change so small beside the seconds that it is divided by that the quotient rounds to
zero. -/
def Negligible : (change seconds : Double) → Prop
  | .fin _ a, .fin _ b => 2 * (a.units * unitsPerOne) ≤ b.units
  | _, _ => False

theorem atLeastZero_ofQuotient_iff {neg : Bool} {num den : Nat} (hden : 0 < den) :
    (ofQuotient neg num den).AtLeastZero ↔ neg = false ∨ 2 * num ≤ den := by
  cases hround : Magnitude.round? num den with
  | none =>
    have hbig : ¬ 2 * num ≤ den := by
      intro hle
      rw [Magnitude.round?_eq_zero hden hle] at hround
      cases hround
    rw [ofQuotient_of_none neg hround, atLeastZero_inf_iff, or_iff_left hbig]
  | some m =>
    rw [ofQuotient_of_some neg hround, atLeastZero_fin_iff, Magnitude.mant_eq_zero_iff hden hround]

/-- **The sign of a quotient**: that of its divisor, unless it vanishes. -/
theorem atLeastZero_div_iff {change : Double} (hchange : change.AtLeastZero) {neg : Bool}
    {b : Magnitude} (hb : b.mant ≠ 0) :
    (change.div (.fin neg b)).AtLeastZero ↔ neg = false ∨ Negligible change (.fin neg b) := by
  cases change with
  | nan => exact absurd hchange not_atLeastZero_nan
  | inf s =>
    rw [atLeastZero_inf_iff] at hchange
    subst hchange
    simp only [div, atLeastZero_inf_iff, Negligible, or_false]
    cases neg <;> simp
  | fin s a =>
    have hpos : 0 < b.units := Nat.pos_of_ne_zero fun h => hb (units_eq_zero_iff.mp h)
    simp only [div, if_neg hb, atLeastZero_ofQuotient_iff hpos, Negligible]
    rcases (atLeastZero_fin_iff s a).mp hchange with rfl | hzero
    · cases neg <;> simp
    · have hle : 2 * (a.units * unitsPerOne) ≤ b.units := by
        rw [units_eq_zero_iff.mpr hzero]
        omega
      simp [hle]

/-- A whole number other than zero is a double of its own sign, and not zero either. -/
theorem ofInt?_eq_some {n : Int} (hn : n ≠ 0) {x : Double} (h : ofInt? n = some x) :
    ∃ m, x = .fin (n < 0) m ∧ m.mant ≠ 0 := by
  obtain ⟨m, hm, rfl⟩ := Option.map_eq_some_iff.mp h
  refine ⟨m, rfl, fun hzero => ?_⟩
  have hle := (Magnitude.mant_eq_zero_iff Nat.one_pos hm).mp hzero
  have hunits : 0 < n.natAbs * unitsPerOne :=
    Nat.mul_pos (Int.natAbs_pos.mpr hn) unitsPerOne_pos
  omega

end Double

end Baseline
