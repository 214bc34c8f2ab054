import Baseline.Number.Shortest
import Baseline.Proofs.Number.Rounding

/-!
# Shortest digits read back

* `Magnitude.ofDecimal_shortest` : the decimal that `Magnitude.shortest` chooses is read as the
  magnitude that it came from, under either sign.
* `Magnitude.ofDecimal_decimalNumerator` : so is the exact expansion, which stands behind the
  search for a shorter one.  Whether 17 digits always do is therefore not asked.
-/

set_option autoImplicit false

namespace Baseline

namespace Scientific

/-- Removing zeros keeps the number that is read. -/
theorem ofDecimal_strip (neg : Bool) (fuel : Nat) (d : Scientific) :
    Double.ofDecimal neg (d.strip fuel).digits (d.strip fuel).exp =
      Double.ofDecimal neg d.digits d.exp := by
  induction fuel generalizing d with
  | zero => rfl
  | succ fuel ih =>
    unfold strip
    split
    · rename_i h
      rw [ih]
      have hten : d.digits / 10 * 10 = d.digits := Nat.div_mul_cancel (Nat.dvd_of_mod_eq_zero h.2)
      have hback := Double.ofDecimal_mul_ten neg (d.digits / 10) (d.exp + 1)
      rw [hten, show d.exp + 1 - 1 = d.exp by omega] at hback
      exact hback.symm
    · rfl

end Scientific

namespace Magnitude

/-- The exact expansion of a magnitude reads back. -/
theorem ofDecimal_decimalNumerator (m : Magnitude) :
    Double.ofDecimal false m.decimalNumerator (-1074) = .fin false m := by
  by_cases hzero : m.decimalNumerator = 0
  · have hmant : m.mant = 0 := by
      unfold decimalNumerator units at hzero
      have h5 : Nat.pow 5 1074 ≠ 0 := by decide +kernel
      have h2 : Nat.pow 2 m.exp ≠ 0 := Nat.ne_of_gt (Nat.two_pow_pos _)
      generalize Nat.pow 5 1074 = factor at hzero h5
      simpa [h5, h2] using hzero
    rw [hzero, Double.ofDecimal_zero, eq_zero_of_mant hmant]
  · rw [Double.ofDecimal_eq_ofQuotient false hzero]
    obtain ⟨power, hden, hten, hpos⟩ : ∃ power, Nat.pow 10 (-(-1074 : Int)).toNat = power ∧
        Nat.pow 5 1074 * Double.unitsPerOne = power ∧ 0 < power :=
      ⟨_, rfl, by decide +kernel, by decide +kernel⟩
    have hnum : m.decimalNumerator * Nat.pow 10 (-1074 : Int).toNat * Double.unitsPerOne =
        m.units * power := by
      unfold decimalNumerator
      rw [show (-1074 : Int).toNat = 0 from rfl, show Nat.pow 10 0 = 1 from rfl, Nat.mul_one,
        Nat.mul_assoc, hten]
    rw [hnum, hden, ← Nat.one_mul power, ← Nat.mul_assoc, Nat.mul_one,
      Double.ofQuotient_mul_right false m.units 1 hpos]
    exact Double.ofQuotient_of_some false m.round?_units

/-- **The shortest digits of a magnitude read back**, under either sign. -/
theorem ofDecimal_shortest (neg : Bool) (m : Magnitude) :
    Double.ofDecimal neg m.shortest.digits m.shortest.exp = .fin neg m := by
  apply Double.ofDecimal_neg
  unfold shortest
  split
  · rename_i hmant
    rw [Double.ofDecimal_zero, eq_zero_of_mant hmant]
  · split
    · rename_i d hd
      obtain ⟨k, -, hk⟩ := List.exists_of_findSome?_eq_some hd
      have hreads : m.readsBack d = true := List.find?_some hk
      rw [Scientific.ofDecimal_strip]
      simpa [readsBack] using hreads
    · rw [Scientific.ofDecimal_strip]
      exact m.ofDecimal_decimalNumerator

end Magnitude

end Baseline
