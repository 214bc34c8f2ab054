import Baseline.Proofs.Number.Order
import Baseline.Proofs.Sampling.History
import Baseline.Proofs.Sampling.Sign

/-!
# When a reset is reported

A reset is reported when the raw value of a counter has fallen.  The store keeps doubles, and so
two whole numbers with one double between them are one to it.

* `sample?_performAll_of_unchanged` : calls that do not change a sample leave it.
* `computeValue_reset_iff` : what a reset is told from, for any store and any raw value.
* `integer_reset_iff` : **a counter of whole numbers is reported as reset exactly when it fell to
  another double**, which it always did among numbers up to `2 ^ 53`.
* `reset_missed` : a counter that fell by one, and was not reported as reset.
-/

set_option autoImplicit false

namespace Baseline

/-- The class of the collector's error that a result is. -/
def reportedClass? {α : Type} : Except Failure α → Option ErrorClass
  | .error (.reported e) => some e.errorClass
  | _ => none

theorem reportedClass?_map {α β : Type} (f : α → β) (r : Except Failure α) :
    reportedClass? (r.map f) = reportedClass? r := by
  cases r with
  | error e => cases e <;> rfl
  | ok a => rfl

/-! ## One sample after another -/

/-- Calls that do not change the sample of a key leave it. -/
theorem sample?_performAll_of_unchanged {key : String} {calls : List TimedCall}
    (hcalls : ∀ c ∈ calls, c.change? key = none) (s : Store) :
    (performAll s calls).2.sample? key = s.sample? key := by
  induction calls generalizing s with
  | nil => rfl
  | cons c rest ih =>
    rw [List.forall_mem_cons] at hcalls
    rw [performAll, ih hcalls.2, sample?_perform_eq, hcalls.1, Option.getD_none]

/-- Two samples are told to be those of a counter that was reset when the change between them is
below zero and they are some time apart. -/
theorem compareSamples_reset_iff {key : String} {kind : SourceKind} {old new : Sample} :
    reportedClass? (compareSamples key kind old new) = some .counterReset ↔
      new.time ≠ old.time ∧ (new.value.sub old.value).less .zero = true := by
  unfold compareSamples
  dsimp only
  split
  · rename_i helapsed
    exact iff_of_false (by simp [reportedClass?, CollectorError.errorClass])
      fun h => h.1 (Int.sub_eq_zero.mp helapsed)
  rename_i helapsed
  have hne : new.time ≠ old.time := fun h => helapsed (Int.sub_eq_zero.mpr h)
  split
  · rename_i hless
    exact iff_of_true rfl ⟨hne, hless⟩
  rename_i hless
  refine iff_of_false ?_ fun h => hless h.2
  split
  · split <;> simp [reportedClass?]
  · simp [reportedClass?]

/-- **What a reset is told from**: the sample that the store has, and the new one. -/
theorem computeValue_reset_iff {now value : Double} {s : Store} {key : String}
    {raw declared : Value} {kind : SourceKind} {time : Int}
    (hkind : resolveKind key declared = .ok kind) (hsampled : kind.isSampled = true)
    (hvalue : raw.finite? = some value) (htime : wholeSecond now = .ok time) :
    reportedClass? (computeValue now (some s) key raw declared).1 = some .counterReset ↔
      ∃ old, s.sample? key = some old ∧ time ≠ old.time ∧
        (value.sub old.value).less .zero = true := by
  rw [computeValue_sampled hkind hsampled, hvalue]
  simp only [reportedClass?_map, sampleCounter, Store.record, htime]
  cases s.sample? key with
  | none => simp [reportedClass?]
  | some old => simp [compareSamples_reset_iff]

/-! ## Counters of whole numbers -/

theorem Value.finite?_int {n : Int} {x : Double} :
    (Value.int n).finite? = some x ↔ Double.ofInt? n = some x := by
  have hfinite : ∀ y, Double.ofInt? n = some y → y.isFinite = true := fun _ hy =>
    Double.isFinite_iff_units?.mpr ⟨_, (Double.units?_ofInt? hy).choose_spec.2⟩
  rw [finite?, toDouble_of_eq_int rfl]
  cases hx : Double.ofInt? n with
  | none => simp
  | some y => simp [hfinite y hx]

/-- **A counter of whole numbers is reported as reset exactly when it fell to another double.**
The first sample may meet any store, and between the two there may be any calls that do not
change it.  Among whole numbers up to `2 ^ 53` no two are one double. -/
theorem integer_reset_iff {a b : Int} {x y : Double} (ha : (Value.int a).finite? = some x)
    (hb : (Value.int b).finite? = some y) {key : String} {declaredFirst declaredNext : Value}
    {first next : SourceKind} (hfirst : resolveKind key declaredFirst = .ok first)
    (hfirstSampled : first.isSampled = true) (hnext : resolveKind key declaredNext = .ok next)
    (hnextSampled : next.isSampled = true) {earlier later : Double} {t u : Int}
    (ht : wholeSecond earlier = .ok t) (hu : wholeSecond later = .ok u) (hseconds : t ≠ u)
    (s : Store) {between : List TimedCall} (hbetween : ∀ c ∈ between, c.change? key = none) :
    let result := (computeValue later
      (some (performAll s (⟨earlier, .compute key (.int a) declaredFirst⟩ :: between)).2)
      key (.int b) declaredNext).1
    (reportedClass? result = some .counterReset ↔ b < a ∧ x ≠ y) ∧
      (a.natAbs ≤ 2 ^ 53 → b.natAbs ≤ 2 ^ 53 →
        (reportedClass? result = some .counterReset ↔ b < a)) := by
  intro result
  have hcounted : (⟨key, .int a, declaredFirst⟩ : Reading).counted? = some (first, x) :=
    Reading.counted?_eq_some.mpr ⟨hfirst, ha, hfirstSampled⟩
  have hold : (performAll s (⟨earlier, .compute key (.int a) declaredFirst⟩ :: between)).2.sample?
      key = some ⟨x, t⟩ := by
    rw [performAll, sample?_performAll_of_unchanged hbetween, sample?_perform_eq]
    simp [TimedCall.change?, hcounted, ht]
  have hreset : reportedClass? result = some .counterReset ↔ b < a ∧ x ≠ y := by
    rw [computeValue_reset_iff hnext hnextSampled hb hu, hold]
    simp only [Option.some.injEq, exists_eq_left']
    rw [Double.sub_less_zero (Value.isFinite_of_finite? hb) (Value.isFinite_of_finite? ha),
      Double.less_ofInt?_iff (Value.finite?_int.mp ha) (Value.finite?_int.mp hb)]
    exact and_iff_right (Ne.symm hseconds)
  refine ⟨hreset, fun hexact hexact' => hreset.trans ?_⟩
  refine ⟨fun h => h.1, fun hlt => ⟨hlt, ?_⟩⟩
  rintro rfl
  have := Double.ofInt?_injective_of_le hexact hexact' (Value.finite?_int.mp ha)
    (Value.finite?_int.mp hb)
  omega

/-- A byte counter from 20 to 5, with another key read in between. -/
theorem integer_reset_iff_twenty :
    let between : List TimedCall := [⟨.ofWhole 1005, .compute "j" (.int 3) (.kind .rate)⟩]
    let result := (computeValue (.ofWhole 1010)
      (some (performAll .empty
        (⟨.ofWhole 1000, .compute "k" (.int 20) (.kind .delta)⟩ :: between)).2)
      "k" (.int 5) (.kind .prate)).1
    (∀ c ∈ between, c.change? "k" = none) ∧
      (reportedClass? result = some .counterReset ↔
        (5 : Int) < 20 ∧ Double.ofWhole 20 ≠ Double.ofWhole 5) ∧
      ((20 : Int).natAbs ≤ 2 ^ 53 → (5 : Int).natAbs ≤ 2 ^ 53 →
        (reportedClass? result = some .counterReset ↔ (5 : Int) < 20)) := by
  intro between result
  have hbetween : ∀ c ∈ between, c.change? "k" = none := by decide +kernel
  have ha : (Value.int 20).finite? = some (.ofWhole 20) := by decide +kernel
  have hb : (Value.int 5).finite? = some (.ofWhole 5) := by decide +kernel
  have hfirst : resolveKind "k" (.kind .delta) = .ok .delta := rfl
  have hnext : resolveKind "k" (.kind .prate) = .ok .prate := rfl
  have ht : wholeSecond (.ofWhole 1000) = .ok 1000 := by decide +kernel
  have hu : wholeSecond (.ofWhole 1010) = .ok 1010 := by decide +kernel
  exact ⟨hbetween,
    integer_reset_iff ha hb hfirst rfl hnext rfl ht hu (by decide) .empty hbetween⟩

/-- **A reset that is not reported**: a counter falls by one, and a change of zero is reported. -/
theorem reset_missed :
    (9007199254740992 : Int) < 9007199254740993 ∧
      (Value.int 9007199254740993).finite?.isSome = true ∧
      (Value.int 9007199254740992).finite?.isSome = true ∧
      (computeValue (.ofWhole 1010)
        (computeValue (.ofWhole 1000) (some .empty) "k" (.int 9007199254740993) (.kind .delta)).2
        "k" (.int 9007199254740992) (.kind .delta)).1 = .ok (.float .zero) := by
  refine ⟨by decide, by decide +kernel, by decide +kernel, eq_ok_of_reported? ?_⟩
  decide +kernel

end Baseline
