import Baseline.Proofs.Number.Sign

/-!
# Rounding keeps the order, and where it overflows

* `le_roundDiv_iff` : from where on a quotient is rounded to an even number or beyond.
* `Magnitude.round?_mono` : **a larger quotient is not rounded to a smaller magnitude.**
* `Magnitude.round?_eq_none_iff` : **which quotients are beyond the finite range.**
* `Double.less_ofInt?_iff` : the doubles of two whole numbers have their order, unless they are one.
* `Double.sub_less_zero` : a difference is below zero when its terms are out of order.
* `Double.isFinite_sub_iff`, `Double.isFinite_div_iff` : which differences and quotients are finite.
* `Double.ofWhole_add`, `Double.ofWhole_sub` : **whole numbers up to `2 ^ 53` are added and
  subtracted exactly.**
-/

set_option autoImplicit false

namespace Baseline

/-! ## Whole quotients -/

theorem roundDiv_le_succ (num den : Nat) : roundDiv num den ≤ num / den + 1 := by
  unfold roundDiv
  dsimp only
  split
  · omega
  · split
    · omega
    · split <;> omega

theorem roundDiv_mono {num num' den : Nat} (h : num ≤ num') :
    roundDiv num den ≤ roundDiv num' den := by
  rcases Nat.lt_or_ge (num / den) (num' / den) with hlt | hge
  · exact Nat.le_trans (roundDiv_le_succ num den) (Nat.le_trans hlt (le_roundDiv num' den))
  · have hquot : num / den = num' / den := Nat.le_antisymm (Nat.div_le_div_right h) hge
    have hrest : num % den ≤ num' % den := by
      have hnum := Nat.div_add_mod num den
      have hnum' := Nat.div_add_mod num' den
      rw [← hquot] at hnum'
      omega
    unfold roundDiv
    rw [← hquot]
    dsimp only
    split
    · split
      · exact Nat.le_refl _
      · split
        · omega
        · split <;> omega
    · split
      · split
        · omega
        · rw [if_pos (by omega)]
      · split <;> split <;> first | omega | split <;> omega

/-- What is no proper fraction is not rounded. -/
theorem roundDiv_mul_cancel {num den : Nat} (hden : 0 < den) (h : den ∣ num) :
    roundDiv num den * den = num := by
  obtain ⟨k, rfl⟩ := h
  have hround := roundDiv_mul_right k 1 hden
  rw [Nat.one_mul, roundDiv_one] at hround
  rw [Nat.mul_comm den k, hround]

/-- **From where on a quotient is rounded to an even number or beyond**: half a unit below it. -/
theorem le_roundDiv_iff {num den k : Nat} (hden : 0 < den) (hk : k % 2 = 0) :
    k ≤ roundDiv num den ↔ 2 * (k * den) ≤ 2 * num + den := by
  have hnum := Nat.div_add_mod num den
  have hrest := Nat.mod_lt num hden
  have hlow := le_roundDiv num den
  have hhigh := roundDiv_le_succ num den
  rw [Nat.mul_comm] at hnum
  rcases Nat.lt_trichotomy k (num / den + 1) with hlt | heq | hgt
  · have hmul : k * den ≤ num / den * den := Nat.mul_le_mul_right den (by omega)
    exact iff_of_true (by omega) (by omega)
  · -- the next whole number, which is even: a tie goes to it
    have hodd : ¬ num / den % 2 = 0 := by omega
    have hmul : k * den = num / den * den + den := by rw [heq, Nat.succ_mul]
    rw [hmul, heq]
    unfold roundDiv
    dsimp only
    rw [if_neg hodd]
    split
    · exact iff_of_false (by omega) (by omega)
    · split <;> exact iff_of_true (by omega) (by omega)
  · have hmul : (num / den + 2) * den ≤ k * den := Nat.mul_le_mul_right den (by omega)
    rw [Nat.add_mul] at hmul
    exact iff_of_false (by omega) (by omega)

namespace Magnitude

/-! ## The order of magnitudes -/

theorem excess_mono {n n' : Nat} (h : n ≤ n') : excess n ≤ excess n' := by
  have hlog : n.log2 ≤ n'.log2 := by
    rcases Nat.eq_zero_or_pos n with rfl | hpos
    · exact Nat.zero_le _
    · rw [Nat.le_log2 (by omega)]
      exact Nat.le_trans (Nat.log2_self_le (by omega)) h
  unfold excess
  omega

/-- A number with bits to spare is at least as large as its top bit. -/
theorem pow_le_of_le_excess {whole e : Nat} (he : 0 < e) (h : e ≤ excess whole) :
    Nat.pow 2 (52 + e) ≤ whole := by
  have hlog : 52 + e ≤ whole.log2 := by
    unfold excess at h
    omega
  have hne : whole ≠ 0 := fun hzero => by
    rw [hzero, show Nat.log2 0 = 0 from rfl] at hlog
    omega
  exact (Nat.le_log2 hne).mp hlog

/-- What is kept of a quotient has at most 53 bits, or is the next power of two. -/
theorem roundDiv_excess_le (num den : Nat) :
    roundDiv num (den * Nat.pow 2 (excess (num / den))) ≤ Nat.pow 2 53 := by
  have hkept : num / (den * Nat.pow 2 (excess (num / den))) < 2 ^ 53 := by
    rw [← Nat.div_div_eq_div_mul]
    generalize num / den = quot
    refine (Nat.div_lt_iff_lt_mul (Nat.two_pow_pos (excess quot))).mpr ?_
    rw [← Nat.pow_add]
    refine Nat.lt_of_lt_of_le Nat.lt_log2_self (Nat.pow_le_pow_right (by decide) ?_)
    unfold excess
    omega
  exact Nat.le_trans (roundDiv_le_succ num _) hkept

/-- The size of a rounded magnitude. -/
theorem units_of_round? {num den : Nat} {m : Magnitude} (h : round? num den = some m) :
    m.units = roundDiv num (den * Nat.pow 2 (excess (num / den))) *
      Nat.pow 2 (excess (num / den)) := by
  have hle := roundDiv_excess_le num den
  unfold round? at h
  dsimp only at h
  split at h
  · split at h <;> cases h
    rfl
  · rename_i hbig
    split at h <;> cases h
    rw [Nat.le_antisymm hle (Nat.le_of_not_lt hbig)]
    change Nat.pow 2 52 * Nat.pow 2 (excess (num / den) + 1) = _
    generalize excess (num / den) = e
    rw [show Nat.pow 2 (e + 1) = Nat.pow 2 e * 2 from rfl,
      show Nat.pow 2 53 = Nat.pow 2 52 * 2 from rfl]
    ring

/-- **A larger quotient is not rounded to a smaller magnitude.** -/
theorem round?_mono {num num' den : Nat} {m m' : Magnitude} (hle : num ≤ num')
    (h : round? num den = some m) (h' : round? num' den = some m') : m.units ≤ m'.units := by
  rw [units_of_round? h, units_of_round? h']
  have hexcess := excess_mono (Nat.div_le_div_right (c := den) hle)
  rcases Nat.eq_or_lt_of_le hexcess with heq | hlt
  · rw [heq]
    exact Nat.mul_le_mul_right _ (roundDiv_mono hle)
  · have hkept := (le_roundDiv_excess num' den).resolve_left (by omega)
    calc roundDiv num (den * Nat.pow 2 (excess (num / den))) * Nat.pow 2 (excess (num / den))
        ≤ Nat.pow 2 53 * Nat.pow 2 (excess (num / den)) :=
          Nat.mul_le_mul_right _ (roundDiv_excess_le num den)
      _ = Nat.pow 2 (53 + excess (num / den)) := (Nat.pow_add 2 53 _).symm
      _ ≤ Nat.pow 2 (52 + excess (num' / den)) := Nat.pow_le_pow_right (by decide) (by omega)
      _ = Nat.pow 2 52 * Nat.pow 2 (excess (num' / den)) := Nat.pow_add 2 52 _
      _ ≤ _ := Nat.mul_le_mul_right _ hkept

/-- Magnitudes of one size are one. -/
theorem eq_of_units {m m' : Magnitude} (h : m.units = m'.units) : m = m' :=
  Option.some.inj (m.round?_units.symm.trans (h ▸ m'.round?_units))

/-- A whole number of at most `2 ^ 53` steps of one size is rounded to itself. -/
theorem units_of_steps {k j : Nat} (hk : k ≤ 2 ^ 53) {m : Magnitude}
    (h : round? (k * Nat.pow 2 j) 1 = some m) : m.units = k * Nat.pow 2 j := by
  have hdvd : Nat.pow 2 (excess (k * Nat.pow 2 j)) ∣ k * Nat.pow 2 j := by
    rcases Nat.lt_or_ge j (excess (k * Nat.pow 2 j)) with hlt | hle
    · -- there are `2 ^ 53` steps, which are `2 ^ 52` of twice their size
      have hpow := pow_le_of_le_excess (Nat.succ_pos j) hlt
      rw [Nat.pow_eq, Nat.add_succ, ← Nat.succ_add, Nat.pow_add] at hpow
      obtain rfl : k = 2 ^ 53 :=
        Nat.le_antisymm hk (Nat.le_of_mul_le_mul_right hpow (Nat.two_pow_pos j))
      have hexcess : excess (2 ^ 53 * Nat.pow 2 j) = j + 1 := by
        have heq : 2 ^ 53 * Nat.pow 2 j = 2 ^ 52 * 2 ^ (j + 1) := by
          rw [Nat.pow_eq]
          ring
        rw [heq, excess_mul_pow (Nat.le_refl _) (by decide)]
      rw [hexcess, Nat.pow_eq, Nat.pow_eq, ← Nat.pow_add]
      exact Nat.pow_dvd_pow 2 (by omega)
    · exact (Nat.pow_dvd_pow 2 hle).mul_left k
  rw [units_of_round? h, Nat.div_one, Nat.one_mul]
  exact roundDiv_mul_cancel (Nat.two_pow_pos _) hdvd

/-- A whole number up to `2 ^ 53` is rounded to itself. -/
theorem units_of_whole {k : Nat} (hk : k ≤ 2 ^ 53) {m : Magnitude}
    (h : round? (k * Double.unitsPerOne) 1 = some m) : m.units = k * Double.unitsPerOne := by
  obtain ⟨j, hj⟩ : ∃ j, Double.unitsPerOne = 2 ^ j := ⟨_, Double.unitsPerOne_eq⟩
  rw [hj] at h ⊢
  exact units_of_steps hk h

/-! ## The range of magnitudes -/

/-- Where the finite range ends, in units: half a step above the largest finite magnitude. -/
def rangeEnd : Nat := (Nat.pow 2 54 - 1) * Nat.pow 2 2044

theorem rangeEnd_pos : 0 < rangeEnd := by decide +kernel

/-- A quotient is rounded to the 54 bits of a power of two from half a step below it. -/
theorem pow_le_roundDiv_iff {num den : Nat} (hden : 0 < den) (e : Nat) :
    Nat.pow 2 53 ≤ roundDiv num (den * Nat.pow 2 (e + 1)) ↔
      (Nat.pow 2 54 - 1) * Nat.pow 2 e * den ≤ num := by
  have hpos : 0 < den * Nat.pow 2 (e + 1) := Nat.mul_pos hden (Nat.two_pow_pos (e + 1))
  rw [le_roundDiv_iff hpos (by decide), show Nat.pow 2 (e + 1) = Nat.pow 2 e * 2 from rfl]
  generalize Nat.pow 2 e = step
  have hstep : den * (step * 2) = 2 * (step * den) := by ring
  have hend : (Nat.pow 2 54 - 1) * step * den = (Nat.pow 2 54 - 1) * (step * den) :=
    Nat.mul_assoc _ _ _
  have hpow : Nat.pow 2 53 * (2 * (step * den)) = Nat.pow 2 54 * (step * den) := by
    rw [show Nat.pow 2 54 = Nat.pow 2 53 * 2 from rfl]
    ring
  rw [hstep, hpow, hend]
  generalize step * den = x
  norm_num
  omega

/-- **Which quotients are beyond the finite range.** -/
theorem round?_eq_none_iff {num den : Nat} (hden : 0 < den) :
    round? num den = none ↔ rangeEnd * den ≤ num := by
  have hlow : Nat.pow 2 2097 ≤ rangeEnd := by decide +kernel
  have hhigh : rangeEnd < Nat.pow 2 (52 + Nat.succ 2045) := by decide +kernel
  rcases Nat.lt_trichotomy (excess (num / den)) 2045 with hlt | heq | hgt
  · -- the exponent is not the largest one, so that there is room to round up
    have hnot : ¬ rangeEnd * den ≤ num := by
      intro hle
      have hquot : Nat.pow 2 2097 ≤ num / den :=
        Nat.le_trans hlow ((Nat.le_div_iff_mul_le hden).mpr hle)
      have hexcess := excess_mono hquot
      rw [show excess (Nat.pow 2 2097) = 2045 by decide +kernel] at hexcess
      omega
    refine iff_of_false ?_ hnot
    unfold round?
    simp only [show excess (num / den) ≤ 2045 by omega, show excess (num / den) + 1 ≤ 2045 by omega,
      dite_true]
    split <;> exact Option.some_ne_none _
  · obtain ⟨e, he, hend⟩ : ∃ e, 2045 = e + 1 ∧ rangeEnd = (Nat.pow 2 54 - 1) * Nat.pow 2 e :=
      ⟨2044, rfl, rangeEnd.eq_1⟩
    rw [hend, ← pow_le_roundDiv_iff hden e]
    unfold round?
    simp only [heq.trans he, show e + 1 ≤ 2045 by omega, show ¬ e + 1 + 1 ≤ 2045 by omega,
      dite_true, dite_false]
    split
    · rename_i hfits
      exact iff_of_false (by simp) (Nat.not_le.mpr hfits)
    · rename_i hbig
      exact iff_of_true (by simp) (Nat.le_of_not_lt hbig)
  · have hbeyond : rangeEnd * den ≤ num := by
      have hquot := pow_le_of_le_excess (Nat.succ_pos 2045) hgt
      exact (Nat.le_div_iff_mul_le hden).mp (Nat.le_trans (Nat.le_of_lt hhigh) hquot)
    refine iff_of_true ?_ hbeyond
    unfold round?
    simp only [show ¬ excess (num / den) ≤ 2045 by omega,
      show ¬ excess (num / den) + 1 ≤ 2045 by omega, dite_false, dite_eq_ite, ite_self]

/-- Every magnitude is within the range. -/
theorem units_lt_rangeEnd (m : Magnitude) : m.units < rangeEnd := by
  have hround := m.round?_units
  by_contra hge
  rw [(round?_eq_none_iff Nat.one_pos).mpr (by omega)] at hround
  cases hround

theorem units_le_units {m n : Magnitude} (hmant : m.mant ≤ n.mant) (hexp : m.exp ≤ n.exp) :
    m.units ≤ n.units :=
  Nat.mul_le_mul hmant (Nat.pow_le_pow_right Nat.two_pos hexp)

theorem units_le_largest (m : Magnitude) : m.units ≤ largest.units :=
  units_le_units (Nat.le_sub_one_of_lt m.mant_lt) m.exp_le

end Magnitude

namespace Double

/-! ## The order of doubles -/

/-- The units of a finite number. -/
theorem isFinite_iff_units? {x : Double} : x.isFinite = true ↔ ∃ u, x.units? = some u := by
  cases x <;> simp [isFinite, units?]

theorem less_of_units? {x y : Double} {u v : Int} (hx : x.units? = some u)
    (hy : y.units? = some v) : x.less y = decide (u < v) := by
  cases x with
  | fin s a =>
    cases y with
    | fin t b =>
      cases hx
      cases hy
      rfl
    | _ => cases hy
  | _ => cases hx

/-- The sign and the size of a whole number's double are those of the number. -/
theorem units?_ofInt? {n : Int} {x : Double} (h : ofInt? n = some x) :
    ∃ m, Magnitude.round? (n.natAbs * unitsPerOne) 1 = some m ∧
      x.units? = some (if n < 0 then -(m.units : Int) else m.units) := by
  obtain ⟨m, hm, rfl⟩ := Option.map_eq_some_iff.mp h
  exact ⟨m, hm, by simp [units?]⟩

/-- **Which whole numbers have a double**: those within the finite range. -/
theorem exists_ofInt?_iff {n : Int} :
    (∃ x, ofInt? n = some x) ↔ n.natAbs * unitsPerOne < Magnitude.rangeEnd := by
  have hnone : Magnitude.round? (n.natAbs * unitsPerOne) 1 = none ↔
      Magnitude.rangeEnd * 1 ≤ n.natAbs * unitsPerOne := Magnitude.round?_eq_none_iff Nat.one_pos
  rw [← not_le, ← Nat.mul_one Magnitude.rangeEnd, ← hnone, ofInt?]
  cases Magnitude.round? (n.natAbs * unitsPerOne) 1 with
  | none => simp
  | some m => simp

/-- The doubles of two whole numbers are not out of order. -/
theorem units?_ofInt?_mono {a b : Int} (hle : a ≤ b) {x y : Double} (hx : ofInt? a = some x)
    (hy : ofInt? b = some y) {u v : Int} (hu : x.units? = some u) (hv : y.units? = some v) :
    u ≤ v := by
  obtain ⟨m, hm, hu'⟩ := units?_ofInt? hx
  obtain ⟨n, hn, hv'⟩ := units?_ofInt? hy
  rw [hu, Option.some.injEq] at hu'
  rw [hv, Option.some.injEq] at hv'
  subst hu' hv'
  split
  · split
    · -- both are below zero, where the larger magnitude is the smaller number
      have := Magnitude.round?_mono (Nat.mul_le_mul_right unitsPerOne (by omega)) hn hm
      omega
    · omega
  · have := Magnitude.round?_mono (Nat.mul_le_mul_right unitsPerOne (by omega)) hm hn
    rw [if_neg (by omega)]
    omega

/-- Doubles of whole numbers are one when they have the same units: there is no minus zero among
them. -/
theorem ofInt?_eq_of_units? {a b : Int} {x y : Double} (hx : ofInt? a = some x)
    (hy : ofInt? b = some y) (h : x.units? = y.units?) : x = y := by
  have hpos : ∀ {n : Int} {m : Magnitude}, n < 0 →
      Magnitude.round? (n.natAbs * unitsPerOne) 1 = some m → 0 < m.units := by
    intro n m hn hm
    refine Nat.pos_of_ne_zero fun hzero => ?_
    have hle := (Magnitude.mant_eq_zero_iff Nat.one_pos hm).mp (units_eq_zero_iff.mp hzero)
    have hunits : 0 < n.natAbs * unitsPerOne := Nat.mul_pos (by omega) unitsPerOne_pos
    omega
  obtain ⟨m, hm, rfl⟩ := Option.map_eq_some_iff.mp hx
  obtain ⟨n, hn, rfl⟩ := Option.map_eq_some_iff.mp hy
  simp only [units?, decide_eq_true_eq, Option.some.injEq] at h
  split at h
  · rename_i ha
    have := hpos ha hm
    split at h
    · rename_i hb
      obtain rfl : m = n := Magnitude.eq_of_units (by omega)
      simp [ha, hb]
    · omega
  · rename_i ha
    split at h
    · rename_i hb
      have := hpos hb hn
      omega
    · rename_i hb
      obtain rfl : m = n := Magnitude.eq_of_units (by omega)
      simp [ha, hb]

/-- **The doubles of two whole numbers have their order, unless they are one.** -/
theorem less_ofInt?_iff {a b : Int} {x y : Double} (hx : ofInt? a = some x)
    (hy : ofInt? b = some y) : y.less x = true ↔ b < a ∧ x ≠ y := by
  obtain ⟨_, _, hu⟩ := units?_ofInt? hx
  obtain ⟨_, _, hv⟩ := units?_ofInt? hy
  generalize (if a < 0 then _ else _ : Int) = u at hu
  generalize (if b < 0 then _ else _ : Int) = v at hv
  rw [less_of_units? hv hu, decide_eq_true_eq]
  constructor
  · intro hlt
    refine ⟨?_, ?_⟩
    · by_contra hle
      have := units?_ofInt?_mono (by omega) hx hy hu hv
      omega
    · rintro rfl
      rw [hu, Option.some.injEq] at hv
      omega
  · rintro ⟨hlt, hne⟩
    refine Int.lt_iff_le_and_ne.mpr ⟨units?_ofInt?_mono (Int.le_of_lt hlt) hy hx hv hu, ?_⟩
    rintro rfl
    exact hne (ofInt?_eq_of_units? hx hy (hu.trans hv.symm))

/-- **Whole numbers up to `2 ^ 53` have doubles of exactly their size.** -/
theorem units?_ofInt?_of_le {n : Int} (hn : n.natAbs ≤ 2 ^ 53) {x : Double}
    (h : ofInt? n = some x) : x.units? = some (n * unitsPerOne) := by
  obtain ⟨m, hm, hx⟩ := units?_ofInt? h
  rw [hx, Magnitude.units_of_whole hn hm]
  congr 1
  push_cast
  split
  · rw [abs_of_neg ‹_›]
    ring
  · rw [abs_of_nonneg (by omega)]

/-- The doubles of two different whole numbers up to `2 ^ 53` are different. -/
theorem ofInt?_injective_of_le {a b : Int} (ha : a.natAbs ≤ 2 ^ 53) (hb : b.natAbs ≤ 2 ^ 53)
    {x : Double} (hx : ofInt? a = some x) (hy : ofInt? b = some x) : a = b := by
  have hunits := units?_ofInt?_of_le ha hx
  rw [units?_ofInt?_of_le hb hy, Option.some.injEq] at hunits
  have hne : (unitsPerOne : Int) ≠ 0 := Int.natCast_ne_zero.mpr unitsPerOne_pos.ne'
  exact (Int.mul_eq_mul_right_iff hne).mp hunits.symm

/-! ## Differences and quotients -/

theorem units?_neg {y : Double} {v : Int} (hy : y.units? = some v) :
    y.neg.units? = some (-v) := by
  cases y with
  | fin t b =>
    cases hy
    cases t <;> simp [Double.neg, units?]
  | _ => cases hy

/-- The sum of two finite numbers, by their units. -/
theorem add_of_units? {x y : Double} {u v : Int} (hx : x.units? = some u)
    (hy : y.units? = some v) :
    (∃ neg, u + v = 0 ∧ x.add y = .fin neg .zero) ∨ (u + v ≠ 0 ∧ x.add y = ofUnits (u + v)) := by
  cases x with
  | fin s a =>
    cases y with
    | fin t b =>
      cases hx
      cases hy
      rw [add]
      by_cases hsum : (if s then -(a.units : Int) else a.units) +
          (if t then -(b.units : Int) else b.units) = 0
      · exact Or.inl ⟨_, hsum, if_pos hsum⟩
      · exact Or.inr ⟨hsum, if_neg hsum⟩
    | _ => cases hy
  | _ => cases hx

theorem sub_of_units? {x y : Double} {u v : Int} (hx : x.units? = some u)
    (hy : y.units? = some v) :
    (∃ neg, u = v ∧ x.sub y = .fin neg .zero) ∨ (u ≠ v ∧ x.sub y = ofUnits (u - v)) := by
  rcases add_of_units? hx (units?_neg hy) with ⟨neg, hsum, h⟩ | ⟨hsum, h⟩
  · exact Or.inl ⟨neg, by omega, h⟩
  · exact Or.inr ⟨by omega, h⟩

theorem ofUnits_less_zero {n : Int} (hn : n ≠ 0) : (ofUnits n).less zero = decide (n < 0) := by
  unfold ofUnits
  cases hround : Magnitude.round? n.natAbs 1 with
  | none => rw [ofQuotient_of_none _ hround]; rfl
  | some m =>
    have hpos : 0 < m.units := by
      refine Nat.pos_of_ne_zero fun hzero => ?_
      have := (Magnitude.mant_eq_zero_iff Nat.one_pos hround).mp (units_eq_zero_iff.mp hzero)
      omega
    have hzero : Magnitude.zero.units = 0 := rfl
    rw [ofQuotient_of_some _ hround]
    simp only [less, zero, hzero]
    by_cases hneg : n < 0 <;> simp [hneg, hpos]

/-- **A difference is below zero when its terms are out of order**: no rounding hides that. -/
theorem sub_less_zero {x y : Double} (hx : x.isFinite = true) (hy : y.isFinite = true) :
    (x.sub y).less zero = x.less y := by
  obtain ⟨u, hu⟩ := isFinite_iff_units?.mp hx
  obtain ⟨v, hv⟩ := isFinite_iff_units?.mp hy
  rw [less_of_units? hu hv]
  rcases sub_of_units? hu hv with ⟨neg, rfl, h⟩ | ⟨hne, h⟩
  · rw [h]
    cases neg <;> simp [less, zero, Magnitude.zero, Magnitude.units]
  · rw [h, ofUnits_less_zero (by omega)]
    exact decide_eq_decide.mpr (by omega)

theorem isFinite_ofQuotient_iff {neg : Bool} {num den : Nat} (hden : 0 < den) :
    (ofQuotient neg num den).isFinite = true ↔ num < Magnitude.rangeEnd * den := by
  rw [← Nat.not_le, ← Magnitude.round?_eq_none_iff hden]
  cases hround : Magnitude.round? num den with
  | none => simp [ofQuotient_of_none _ hround, isFinite]
  | some m => simp [ofQuotient_of_some _ hround, isFinite]

/-- **Which differences are finite**: those that are within the range before they are rounded. -/
theorem isFinite_sub_iff {x y : Double} {u v : Int} (hx : x.units? = some u)
    (hy : y.units? = some v) :
    (x.sub y).isFinite = true ↔ (u - v).natAbs < Magnitude.rangeEnd := by
  rcases sub_of_units? hx hy with ⟨neg, rfl, h⟩ | ⟨hne, h⟩
  · rw [h, Int.sub_self]
    exact iff_of_true rfl Magnitude.rangeEnd_pos
  · rw [h, ofUnits, isFinite_ofQuotient_iff Nat.one_pos, Nat.mul_one]

/-- A whole number other than zero has a double of at least one. -/
theorem unitsPerOne_le_of_ofInt? {n : Int} (hn : n ≠ 0) {neg : Bool} {b : Magnitude}
    (h : ofInt? n = some (.fin neg b)) : unitsPerOne ≤ b.units := by
  obtain ⟨m, hm, hb⟩ := Option.map_eq_some_iff.mp h
  cases hb
  obtain ⟨one, hone⟩ := ofInt?_isSome (n := 1) (by decide)
  obtain ⟨mag, hmag, -⟩ := units?_ofInt? hone
  have hunits := Magnitude.units_of_whole (by decide) hmag
  rw [Int.natAbs_one, Nat.one_mul] at hunits
  rw [← hunits]
  exact Magnitude.round?_mono (Nat.mul_le_mul_right unitsPerOne (by omega)) hmag hm

/-- **A change over whole seconds is finite when the change is.** -/
theorem isFinite_div_iff {change seconds : Double} {n : Int} (hn : n ≠ 0)
    (hseconds : ofInt? n = some seconds) :
    (change.div seconds).isFinite = true ↔ change.isFinite = true := by
  obtain ⟨b, rfl, hb⟩ := ofInt?_eq_some hn hseconds
  cases change with
  | nan => exact Iff.rfl
  | inf s => exact iff_of_false (by simp [div, isFinite]) (by simp [isFinite])
  | fin s a =>
    have hlong := unitsPerOne_le_of_ofInt? hn hseconds
    have hpos : 0 < b.units := Nat.lt_of_lt_of_le unitsPerOne_pos hlong
    refine iff_of_true ?_ rfl
    rw [div, if_neg hb, isFinite_ofQuotient_iff hpos]
    calc a.units * unitsPerOne
        < Magnitude.rangeEnd * unitsPerOne :=
          Nat.mul_lt_mul_of_pos_right a.units_lt_rangeEnd unitsPerOne_pos
      _ ≤ Magnitude.rangeEnd * b.units := Nat.mul_le_mul_left _ hlong

/-! ## Arithmetic of whole numbers -/

theorem ofInt?_ofWhole {n : Int} (hn : n.natAbs ≤ 2 ^ 53) : ofInt? n = some (ofWhole n) := by
  obtain ⟨x, hx⟩ := ofInt?_isSome (n := n) (by omega)
  rw [ofWhole, hx, Option.getD_some]

/-- The double of a whole number up to `2 ^ 53` is that number. -/
theorem units?_ofWhole {n : Int} (hn : n.natAbs ≤ 2 ^ 53) :
    (ofWhole n).units? = some (n * unitsPerOne) :=
  units?_ofInt?_of_le hn (ofInt?_ofWhole hn)

theorem ofWhole_zero : ofWhole 0 = zero := by decide +kernel

theorem isNegative_ofWhole {n : Int} (hn : n.natAbs ≤ 2 ^ 53) :
    (ofWhole n).isNegative = decide (n < 0) := by
  obtain ⟨m, -, hx⟩ := Option.map_eq_some_iff.mp (ofInt?_ofWhole hn)
  rw [← hx]
  rfl

theorem isNegative_neg {x : Double} (hx : x.isFinite = true) :
    x.neg.isNegative = !x.isNegative := by
  cases x with
  | fin s m => rfl
  | _ => cases hx

theorem mul_unitsPerOne_neg_iff (n : Int) : n * unitsPerOne < 0 ↔ n < 0 := by
  have hpos : (0 : Int) < unitsPerOne := Int.natCast_pos.mpr unitsPerOne_pos
  refine ⟨fun h => ?_, fun h => Int.mul_neg_of_neg_of_pos h hpos⟩
  by_contra hn
  exact absurd (Int.mul_nonneg (Int.not_lt.mp hn) hpos.le) (Int.not_le.mpr h)

theorem mul_unitsPerOne_eq_zero_iff (n : Int) : n * unitsPerOne = 0 ↔ n = 0 := by
  have hne : (unitsPerOne : Int) ≠ 0 := Int.natCast_ne_zero.mpr unitsPerOne_pos.ne'
  rw [Int.mul_eq_zero, or_iff_left hne]

/-- As many units as a whole number has are rounded to its double. -/
theorem ofUnits_mul_unitsPerOne {n : Int} {x : Double} (h : ofInt? n = some x) :
    ofUnits (n * unitsPerOne) = x := by
  obtain ⟨m, hm, rfl⟩ := Option.map_eq_some_iff.mp h
  have hsize : (n * unitsPerOne).natAbs = n.natAbs * unitsPerOne := by
    rw [Int.natAbs_mul, Int.natAbs_natCast]
  rw [ofUnits, hsize, ofQuotient_of_some _ hm, decide_eq_decide.mpr (mul_unitsPerOne_neg_iff n)]

/-- The sum of two finite numbers is their rounded sum in units, unless it is a zero with a minus
sign. -/
theorem add_eq_ofUnits {x y : Double} {u v : Int} (hx : x.units? = some u)
    (hy : y.units? = some v) (hsign : u + v = 0 → (x.isNegative && y.isNegative) = false) :
    x.add y = ofUnits (u + v) := by
  cases x with
  | fin s a =>
    cases y with
    | fin t b =>
      cases hx
      cases hy
      rw [add]
      by_cases hsum : (if s then -(a.units : Int) else a.units) +
          (if t then -(b.units : Int) else b.units) = 0
      · have hst : (s && t) = false := hsign hsum
        rw [if_pos hsum, hsum, hst]
        rfl
      · exact if_neg hsum
    | _ => cases hy
  | _ => cases hx

/-- **Sums of whole numbers are exact** up to `2 ^ 53`. -/
theorem ofWhole_add {a b : Int} (ha : a.natAbs ≤ 2 ^ 53) (hb : b.natAbs ≤ 2 ^ 53)
    (hsum : (a + b).natAbs ≤ 2 ^ 53) : (ofWhole a).add (ofWhole b) = ofWhole (a + b) := by
  have hadd := add_eq_ofUnits (units?_ofWhole ha) (units?_ofWhole hb) fun hzero => by
    rw [← Int.add_mul, mul_unitsPerOne_eq_zero_iff] at hzero
    rw [isNegative_ofWhole ha, isNegative_ofWhole hb, ← Bool.decide_and, decide_eq_false_iff_not]
    omega
  rw [hadd, ← Int.add_mul, ofUnits_mul_unitsPerOne (ofInt?_ofWhole hsum)]

/-- **Differences of whole numbers are exact** up to `2 ^ 53`. -/
theorem ofWhole_sub {a b : Int} (ha : a.natAbs ≤ 2 ^ 53) (hb : b.natAbs ≤ 2 ^ 53)
    (hdiff : (a - b).natAbs ≤ 2 ^ 53) : (ofWhole a).sub (ofWhole b) = ofWhole (a - b) := by
  have hfinite : (ofWhole b).isFinite = true := isFinite_iff_units?.mpr ⟨_, units?_ofWhole hb⟩
  have hadd := add_eq_ofUnits (units?_ofWhole ha) (units?_neg (units?_ofWhole hb)) fun hzero => by
    rw [← Int.neg_mul, ← Int.add_mul, mul_unitsPerOne_eq_zero_iff] at hzero
    rw [isNegative_ofWhole ha, isNegative_neg hfinite, isNegative_ofWhole hb, ← decide_not,
      ← Bool.decide_and, decide_eq_false_iff_not]
    omega
  rw [sub, hadd, ← Int.sub_eq_add_neg, ← Int.sub_mul,
    ofUnits_mul_unitsPerOne (ofInt?_ofWhole hdiff)]

/-- A whole number's double is below zero when the number is. -/
theorem ofWhole_less_zero {n : Int} (hn : n.natAbs ≤ 2 ^ 53) :
    (ofWhole n).less zero = decide (n < 0) := by
  have hzero : zero.units? = some 0 := rfl
  rw [less_of_units? (units?_ofWhole hn) hzero, decide_eq_decide]
  exact mul_unitsPerOne_neg_iff n

end Double

end Baseline
