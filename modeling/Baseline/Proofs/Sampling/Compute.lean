import Baseline.Sampling.Compute

/-!
# What a computation reports and what it records

* `compareSamples_eq_ok` : which two samples of a counter report which number.
* `sampleCounter_eq_ok` : which samples of a counter report which number.
* `computeValue_sampled` : a metric of a sampled kind reports its counter.
* `computeValue_store` : whatever is reported, the store is left alone or gets a finite value.
-/

set_option autoImplicit false

namespace Baseline

/-! ## Reports -/

theorem compareSamples_eq_ok {key : String} {kind : SourceKind} {old new : Sample} {x : Double} :
    compareSamples key kind old new = .ok x ↔
      new.time ≠ old.time ∧ (new.value.sub old.value).less .zero = false ∧
        if kind.isRate then
          ∃ seconds, Double.ofInt? (new.time - old.time) = some seconds ∧
            x = (new.value.sub old.value).div seconds
        else x = new.value.sub old.value := by
  unfold compareSamples
  dsimp only
  split
  · rename_i helapsed
    constructor
    · intro h
      cases h
    · exact fun h => absurd (Int.sub_eq_zero.mp helapsed) h.1
  rename_i helapsed
  have hne : new.time ≠ old.time := fun h => helapsed (Int.sub_eq_zero.mpr h)
  split
  · rename_i hless
    simp [hless]
  rename_i hless
  rw [Bool.not_eq_true] at hless
  simp only [hne, hless, ne_eq, not_false_eq_true, true_and]
  split
  · cases Double.ofInt? (new.time - old.time) with
    | none => simp
    | some seconds => simp [eq_comm]
  · simp [eq_comm]

theorem sampleCounter_eq_ok {now value : Double} {key : String} {kind : SourceKind} {s : Store}
    {x : Double} :
    (sampleCounter now key value kind s).1 = .ok x ↔ ∃ t, wholeSecond now = .ok t ∧
      match s.sample? key with
      | none => x = .zero
      | some old => compareSamples key kind old ⟨value, t⟩ = .ok x := by
  unfold sampleCounter Store.record
  cases wholeSecond now with
  | error f => simp
  | ok t =>
    cases s.sample? key with
    | none => simp [eq_comm]
    | some old => simp

/-- **A metric of a sampled kind reports its counter.** -/
theorem computeValue_sampled {key : String} {declared : Value} {kind : SourceKind}
    (hkind : resolveKind key declared = .ok kind) (hsampled : kind.isSampled = true) (now : Double)
    (s : Store) (raw : Value) :
    computeValue now (some s) key raw declared =
      match raw.finite? with
      | none => (.error (refuseNonNumeric key raw), some s)
      | some value =>
        ((sampleCounter now key value kind s).1.map .float,
          some (sampleCounter now key value kind s).2) := by
  rw [computeValue, hkind]
  cases kind <;> first | rfl | cases hsampled

/-! ## Records -/

/-- A sample leaves the store as it was, or with the new sample recorded. -/
theorem sampleCounter_store (now value : Double) (key : String) (kind : SourceKind) (s : Store) :
    (sampleCounter now key value kind s).2 = s ∨
      ∃ t, s.record now key value = .ok (t, (sampleCounter now key value kind s).2) := by
  unfold sampleCounter
  split
  · exact Or.inl rfl
  · rename_i t after hrecord
    split
    · exact Or.inr ⟨t, hrecord⟩
    · exact Or.inr ⟨t, hrecord⟩

/-- **Whatever it reports, a computation records finite values only.** -/
theorem computeValue_store (now : Double) (s : Store) (key : String) (raw declared : Value) :
    (computeValue now (some s) key raw declared).2 = some s ∨
      ∃ value t s', value.isFinite = true ∧ s.record now key value = .ok (t, s') ∧
        (computeValue now (some s) key raw declared).2 = some s' := by
  unfold computeValue
  split
  · rename_i kind _
    unfold computeForKind
    split
    · exact Or.inl rfl
    split
    · split <;> exact Or.inl rfl
    split
    · exact Or.inl rfl
    rename_i value hvalue
    split
    · exact Or.inl rfl
    · rcases sampleCounter_store now value key kind s with h | ⟨t, h⟩
      · exact Or.inl (congrArg some h)
      · exact Or.inr ⟨value, t, _, Value.isFinite_of_finite? hvalue, h, rfl⟩
  · exact Or.inl rfl

end Baseline
