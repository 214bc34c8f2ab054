import Baseline.Number.Numeral
import Baseline.Number.Shortest
import Baseline.Number.Layout
import Mathlib.Tactic.Ring
import Mathlib.Tactic.Linarith

/-!
# Decimal digits

* `natOfDigits_natChars` : the digits of a whole number denote it.
* `exists_natChars_eq_cons` : they do not begin with zero, unless the number is zero.
* `length_natChars_le` : how many they are.
* `decimalLength_eq_length` : `decimalLength`, which starts to count at a guess, counts them.
-/

set_option autoImplicit false

namespace Baseline

open Numeral

/-! ## What digits denote -/

theorem natOfDigits_eq_ofDigitChars (cs : List Char) :
    natOfDigits cs = Nat.ofDigitChars 10 cs 0 := rfl

theorem natOfDigits_natChars (n : Nat) : natOfDigits (natChars n) = n :=
  Nat.ofDigitChars_ten_toDigits

theorem natOfDigits_append (as bs : List Char) :
    natOfDigits (as ++ bs) = Nat.pow 10 bs.length * natOfDigits as + natOfDigits bs := by
  rw [natOfDigits_eq_ofDigitChars, Nat.ofDigitChars_append, Nat.ofDigitChars_eq_ofDigitChars_zero]
  rfl

theorem natOfDigits_replicate_zero (k : Nat) (cs : List Char) :
    natOfDigits (List.replicate k '0' ++ cs) = natOfDigits cs := by
  have hzero : natOfDigits (List.replicate k '0') = 0 := by
    rw [natOfDigits_eq_ofDigitChars, Nat.ofDigitChars_replicate_zero, Nat.mul_zero]
  rw [natOfDigits_append, hzero, Nat.mul_zero, Nat.zero_add]

theorem natOfDigits_append_zero (cs : List Char) :
    natOfDigits (cs ++ ['0']) = natOfDigits cs * 10 := by
  rw [natOfDigits_append, Nat.mul_comm]
  rfl

/-! ## The digits of a whole number -/

theorem isDigit_eq (c : Char) : isDigit c = c.isDigit := by
  simp [isDigit, Char.isDigit, Char.le_def]

theorem natOfDigits_lt {cs : List Char} (h : ∀ c ∈ cs, isDigit c = true) :
    natOfDigits cs < Nat.pow 10 cs.length := by
  induction cs with
  | nil => decide
  | cons c rest ih =>
    have hc : natOfDigits [c] ≤ 9 := by
      have hdigit := h c List.mem_cons_self
      simp only [isDigit, Bool.and_eq_true, decide_eq_true_eq, Char.le_def, UInt32.le_iff_toNat_le]
        at hdigit
      have htop : c.toNat ≤ 57 := hdigit.2
      change 10 * 0 + (c.toNat - 48) ≤ 9
      omega
    have hrest := ih fun d hd => h d (List.mem_cons_of_mem c hd)
    have hsplit := natOfDigits_append [c] rest
    have hpow : Nat.pow 10 (rest.length + 1) = 10 * Nat.pow 10 rest.length := Nat.pow_succ'
    have hstep := Nat.mul_le_mul_left (Nat.pow 10 rest.length) hc
    rw [List.length_cons, hpow, ← List.singleton_append, hsplit]
    omega

theorem isDigit_of_mem_natChars {n : Nat} {c : Char} (h : c ∈ natChars n) : isDigit c = true := by
  rw [isDigit_eq]
  exact Nat.isDigit_of_mem_toDigits (by decide) (by decide) h

theorem natChars_ne_nil (n : Nat) : natChars n ≠ [] := Nat.toDigits_ne_nil

theorem length_natChars_le {n k : Nat} (hk : 0 < k) :
    (natChars n).length ≤ k ↔ n < Nat.pow 10 k :=
  Nat.length_toDigits_le_iff (by decide) hk

/-- A positive number does not begin with a zero. -/
theorem exists_natChars_eq_cons {n : Nat} (hn : 0 < n) :
    ∃ c ds, natChars n = c :: ds ∧ c ≠ '0' := by
  induction n using Nat.strongRecOn with
  | _ n ih =>
    unfold natChars
    by_cases hlt : n < 10
    · rw [Nat.toDigits_of_lt_base hlt]
      refine ⟨n.digitChar, [], rfl, ?_⟩
      rw [ne_eq, Nat.digitChar_eq_zero]
      omega
    · obtain ⟨c, ds, hc, hne⟩ := ih (n / 10) (by omega) (by omega)
      unfold natChars at hc
      rw [Nat.toDigits_of_base_le (by decide) (by omega), hc]
      exact ⟨c, ds ++ [(n % 10).digitChar], rfl, hne⟩

/-! ## Digits behind zeros -/

theorem isDigit_of_mem_paddedLeft {width n : Nat} {c : Char}
    (h : c ∈ paddedLeft '0' width (natChars n)) : isDigit c = true := by
  rw [paddedLeft, List.mem_append] at h
  rcases h with h | h
  · rw [List.eq_of_mem_replicate h]
    rfl
  · exact isDigit_of_mem_natChars h

theorem natOfDigits_paddedLeft (width n : Nat) :
    natOfDigits (paddedLeft '0' width (natChars n)) = n := by
  rw [paddedLeft, natOfDigits_replicate_zero, natOfDigits_natChars]

theorem length_paddedLeft (fill : Char) (width : Nat) (cs : List Char) :
    (paddedLeft fill width cs).length = max width cs.length := by
  rw [paddedLeft, List.length_append, List.length_replicate]
  omega

/-! ## Counting digits -/

theorem climbToLength_spec {n : Nat} :
    ∀ {fuel start : Nat}, n < Nat.pow 10 (start + fuel) → (start = 0 ∨ Nat.pow 10 (start - 1) ≤ n) →
      n < Nat.pow 10 (climbToLength n fuel start) ∧
        (climbToLength n fuel start = 0 ∨ Nat.pow 10 (climbToLength n fuel start - 1) ≤ n)
  | 0, _, hlt, hlow => ⟨hlt, hlow⟩
  | fuel + 1, start, hlt, hlow => by
    unfold climbToLength
    split
    · rename_i h
      exact ⟨h, hlow⟩
    · rename_i h
      refine climbToLength_spec ?_ (.inr ?_)
      · rw [show start + 1 + fuel = start + (fuel + 1) by omega]
        exact hlt
      · rw [Nat.add_sub_cancel]
        exact Nat.le_of_not_lt h

theorem pow_ten_le_pow_two {a b s len : Nat} (hb : 0 < b) (hab : 10 ^ a ≤ 2 ^ b)
    (hs : s * b ≤ len * a) : 10 ^ s ≤ 2 ^ len := by
  have hpow : (10 ^ s) ^ b ≤ (2 ^ len) ^ b := by
    calc (10 ^ s) ^ b = 10 ^ (s * b) := (Nat.pow_mul 10 s b).symm
      _ ≤ 10 ^ (len * a) := Nat.pow_le_pow_right (by decide) hs
      _ = (10 ^ a) ^ len := by rw [Nat.mul_comm, Nat.pow_mul]
      _ ≤ (2 ^ b) ^ len := Nat.pow_le_pow_left hab len
      _ = (2 ^ len) ^ b := by rw [← Nat.pow_mul, ← Nat.pow_mul, Nat.mul_comm]
  exact (Nat.pow_le_pow_iff_left (Nat.ne_of_gt hb)).mp hpow

/-- The guess at which the count starts is not too large, since `10 ^ 1233 ≤ 2 ^ 4096`. -/
theorem pow_ten_guess_le {n : Nat} (hn : 0 < n) : Nat.pow 10 (n.log2 * 1233 / 4096) ≤ n := by
  obtain ⟨a, b, ha, hb, hbound⟩ : ∃ a b, a = 1233 ∧ b = 4096 ∧ Nat.pow 10 a ≤ Nat.pow 2 b :=
    ⟨1233, 4096, rfl, rfl, by decide +kernel⟩
  have hguess : n.log2 * a / b * b ≤ n.log2 * a := Nat.div_mul_le_self _ _
  rw [← ha, ← hb]
  exact Nat.le_trans (pow_ten_le_pow_two (by omega) hbound hguess)
    (Nat.log2_self_le (Nat.ne_of_gt hn))

theorem decimalLength_eq_length {n : Nat} (hn : 0 < n) :
    decimalLength n = (natChars n).length := by
  obtain ⟨start, hstart⟩ : ∃ start, n.log2 * 1233 / 4096 = start := ⟨_, rfl⟩
  have hguess : Nat.pow 10 start ≤ n := hstart ▸ pow_ten_guess_le hn
  have henough : n < Nat.pow 10 (start + (n.log2 + 2)) := by
    have h2 : 2 ^ (n.log2 + 1) ≤ 10 ^ (n.log2 + 1) := Nat.pow_le_pow_left (by decide) _
    have h10 : 10 ^ (n.log2 + 1) ≤ 10 ^ (start + (n.log2 + 2)) :=
      Nat.pow_le_pow_right (by decide) (by omega)
    exact Nat.lt_of_lt_of_le Nat.lt_log2_self (Nat.le_trans h2 h10)
  have hlow : start = 0 ∨ Nat.pow 10 (start - 1) ≤ n :=
    .inr (Nat.le_trans (Nat.pow_le_pow_right (by decide) (by omega)) hguess)
  obtain ⟨hlt, hge⟩ := climbToLength_spec henough hlow
  unfold decimalLength
  rw [hstart]
  generalize climbToLength n (n.log2 + 2) start = k at *
  have hk : 0 < k := by
    rcases Nat.eq_zero_or_pos k with rfl | h
    · simp only [Nat.pow_eq, Nat.pow_zero] at hlt
      omega
    · exact h
  have hle : (natChars n).length ≤ k := (length_natChars_le hk).mpr hlt
  rcases hge with rfl | hge
  · omega
  by_cases hone : k = 1
  · have := List.length_pos_iff.mpr (natChars_ne_nil n)
    omega
  · have hnot : ¬ (natChars n).length ≤ k - 1 := by
      rw [length_natChars_le (by omega)]
      exact Nat.not_lt.mpr hge
    omega

end Baseline
