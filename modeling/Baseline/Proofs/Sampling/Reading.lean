import Baseline.Proofs.Runs

/-!
# Readings of metrics

A reading is a call that computes a metric.  Only one whose declared kind is sampled, and whose
raw value is a finite number, has anything to do with the store.

* `Reading.counted?` : the kind and the number of such a reading.
* `Reading.perform_counted` : **what it reports, and the sample that it records.**
* `Reading.computeValue_not_counted` : every other reading has nothing to do with the store.
* `sample?_perform_of_ne` : no reading changes the sample of another key.
-/

set_option autoImplicit false

namespace Baseline

/-- A metric that is read. -/
structure Reading where
  key : String
  raw : Value
  declared : Value

/-- The kind and the number of a reading that is sampled; no other touches the store. -/
def Reading.counted? (m : Reading) : Option (SourceKind × Double) :=
  match resolveKind m.key m.declared, m.raw.finite? with
  | .ok kind, some value => if kind.isSampled then some (kind, value) else none
  | _, _ => none

/-- The call that computes a reading. -/
def Reading.call (m : Reading) (now : Double) : TimedCall :=
  ⟨now, .compute m.key m.raw m.declared⟩

/-- The previous sample that a reading is compared with. -/
def Reading.compared? (m : Reading) (s : Store) : Option Sample :=
  if m.counted?.isSome then s.sample? m.key else none

theorem Reading.counted?_eq_some {m : Reading} {kind : SourceKind} {value : Double} :
    m.counted? = some (kind, value) ↔
      resolveKind m.key m.declared = .ok kind ∧ m.raw.finite? = some value ∧
        kind.isSampled = true := by
  unfold Reading.counted?
  cases resolveKind m.key m.declared with
  | error e => simp
  | ok k =>
    cases m.raw.finite? with
    | none => simp
    | some x =>
      by_cases hk : k.isSampled = true
      · simp only [hk, if_true, Option.some.injEq, Prod.mk.injEq, Except.ok.injEq]
        constructor
        · rintro ⟨rfl, rfl⟩
          exact ⟨rfl, rfl, hk⟩
        · rintro ⟨rfl, rfl, _⟩
          exact ⟨rfl, rfl⟩
      · simp only [hk, Bool.false_eq_true, if_false, reduceCtorEq, false_iff, not_and]
        rintro ⟨⟩ _
        exact hk

/-- **What a reading reports**: zero, or what comparing it with its previous sample reports. -/
theorem Reading.perform_counted {m : Reading} {kind : SourceKind} {value now : Double} {t : Int}
    (hcounted : m.counted? = some (kind, value)) (htime : wholeSecond now = .ok t) (s : Store) :
    (m.call now).perform s =
      ((match m.compared? s with
        | none => .ok (.float .zero)
        | some old => (compareSamples m.key kind old ⟨value, t⟩).map .float),
        ⟨s.rows.put m.key ⟨value, t⟩⟩) := by
  obtain ⟨hkind, hvalue, hsampled⟩ := Reading.counted?_eq_some.mp hcounted
  simp only [TimedCall.perform, Reading.call, computeValue_sampled hkind hsampled, hvalue,
    Reading.compared?, hcounted, Option.isSome_some, if_true, sampleCounter, Store.record, htime]
  cases s.sample? m.key <;> rfl

/-- Where the clock shows no second, a reading that is sampled fails and records nothing. -/
theorem Reading.perform_fault {m : Reading} {kind : SourceKind} {value now : Double} {f : Fault}
    (hcounted : m.counted? = some (kind, value)) (hfault : wholeSecond now = .error f) (s : Store) :
    (m.call now).perform s = (.error (.fault f), s) := by
  obtain ⟨hkind, hvalue, hsampled⟩ := Reading.counted?_eq_some.mp hcounted
  simp only [TimedCall.perform, Reading.call, computeValue_sampled hkind hsampled, hvalue,
    sampleCounter, Store.record, hfault]
  rfl

/-- A reading that is not sampled reports what it reports without a store, and leaves the store
alone. -/
theorem Reading.computeValue_not_counted {m : Reading} (hcounted : m.counted? = none) (now : Double)
    (s : Store) : computeValue now (some s) m.key m.raw m.declared =
      ((computeValue now none m.key m.raw m.declared).1, some s) := by
  cases hkind : resolveKind m.key m.declared with
  | error e => simp only [computeValue, hkind]
  | ok kind =>
    simp only [computeValue, hkind]
    by_cases hsampled : kind.isSampled = true
    · have hvalue : m.raw.finite? = none := by
        rw [Option.eq_none_iff_forall_ne_some]
        intro value hvalue
        rw [Reading.counted?_eq_some.mpr ⟨hkind, hvalue, hsampled⟩] at hcounted
        cases hcounted
      simp only [computeForKind, hvalue]
      cases kind <;> first | rfl | cases hsampled
    · cases kind with
      | gauge => simp only [computeForKind]; cases m.raw.finite? <;> rfl
      | attr => simp only [computeForKind]; cases m.raw.text? <;> rfl
      | count => rfl
      | summary => rfl
      | _ => exact absurd rfl hsampled

theorem Reading.perform_not_counted {m : Reading} (hcounted : m.counted? = none) (now : Double)
    (s : Store) : ((m.call now).perform s).2 = s := by
  simp only [TimedCall.perform, Reading.call, Reading.computeValue_not_counted hcounted]
  rfl

/-- A reading changes the sample of no other key. -/
theorem sample?_perform_of_ne {m : Reading} {key : String} (hkey : m.key ≠ key) (now : Double)
    (s : Store) : ((m.call now).perform s).2.sample? key = s.sample? key := by
  unfold TimedCall.perform Reading.call
  dsimp only
  rcases computeValue_store now s m.key m.raw m.declared with h | ⟨value, t, s', _, hrecord, h⟩
  · rw [h]
    rfl
  · rw [h]
    obtain ⟨_, rfl⟩ := Store.record_eq_ok.mp hrecord
    exact Table.get?_put_of_ne (Ne.symm hkey) _ _

end Baseline
