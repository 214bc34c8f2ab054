import Baseline.Proofs.Number.Sign
import Baseline.Proofs.Sampling.Compute

/-!
# When a rate or a change is below zero

The change of a counter is refused when it is below zero, but the time between its two samples
may have either sign.

* `Sample.Climbs` : what the old sample, the new one and the clock have to be.
* `reported_atLeastZero_iff` : **a reported rate or change is at least zero exactly then.**
* `rate_below_zero` : a rate below zero, after the clock was set back.
-/

set_option autoImplicit false

namespace Baseline

/-! ## Reports -/

/-- A counter whose old and new samples report a number that is at least zero: the old value is
known, and where the change is divided by the elapsed seconds, the clock has not been set back,
or the quotient vanishes. -/
structure Sample.Climbs (kind : SourceKind) (old new : Sample) : Prop where
  known : old.value ≠ .nan
  onward : kind.isRate = true → old.time < new.time ∨
    ∀ seconds, Double.ofInt? (new.time - old.time) = some seconds →
      Double.Negligible (new.value.sub old.value) seconds

theorem compareSamples_atLeastZero_iff {key : String} {kind : SourceKind} {old new : Sample}
    {x : Double} (hfinite : new.value.isFinite = true)
    (h : compareSamples key kind old new = .ok x) : x.AtLeastZero ↔ old.Climbs kind new := by
  obtain ⟨hne, hless, hx⟩ := compareSamples_eq_ok.mp h
  have hnan := Double.sub_eq_nan_iff hfinite old.value
  have hchange : (new.value.sub old.value).AtLeastZero ↔ old.value ≠ .nan := by
    rw [Double.atLeastZero_iff, ne_eq, hnan]
    exact and_iff_left hless
  split at hx
  · rename_i hrate
    obtain ⟨seconds, hseconds, rfl⟩ := hx
    have helapsed : new.time - old.time ≠ 0 := fun h => hne (Int.sub_eq_zero.mp h)
    obtain ⟨b, rfl, hb⟩ := Double.ofInt?_eq_some helapsed hseconds
    by_cases hknown : old.value = .nan
    · rw [hnan.mpr hknown]
      refine ⟨fun h => absurd h Double.not_atLeastZero_nan, fun h => absurd hknown h.known⟩
    · -- the change is not below zero, so the sign is that of the elapsed seconds
      rw [Double.atLeastZero_div_iff (hchange.mpr hknown) hb, decide_eq_false_iff_not]
      constructor
      · rintro (hsign | hsmall)
        · exact ⟨hknown, fun _ => Or.inl (by omega)⟩
        · refine ⟨hknown, fun _ => Or.inr fun seconds h => ?_⟩
          rw [hseconds] at h
          cases h
          exact hsmall
      · rintro ⟨_, honward⟩
        rcases honward hrate with hlt | hsmall
        · exact Or.inl (by omega)
        · exact Or.inr (hsmall _ hseconds)
  · rename_i hrate
    rw [hx, hchange]
    exact ⟨fun hknown => ⟨hknown, fun h => absurd h hrate⟩, fun h => h.known⟩

/-- **A reported rate or change is at least zero exactly when its counter climbs**: it has no
sample yet, or its old sample, the new value and the second of the clock are those of a counter
that climbs. -/
theorem reported_atLeastZero_iff {now : Double} {s : Store} {key : String} {raw declared v : Value}
    {kind : SourceKind} (hkind : resolveKind key declared = .ok kind)
    (hsampled : kind.isSampled = true)
    (h : (computeValue now (some s) key raw declared).1 = .ok v) :
    ∃ x value time, v = .float x ∧ raw.finite? = some value ∧ wholeSecond now = .ok time ∧
      (x.AtLeastZero ↔
        ∀ old, s.sample? key = some old → old.Climbs kind ⟨value, time⟩) := by
  rw [computeValue_sampled hkind hsampled] at h
  split at h
  · cases h
  rename_i value hvalue
  dsimp only at h
  cases hresult : (sampleCounter now key value kind s).1 with
  | error e => rw [hresult] at h; cases h
  | ok x =>
    rw [hresult] at h
    cases h
    obtain ⟨time, htime, hx⟩ := sampleCounter_eq_ok.mp hresult
    refine ⟨x, value, time, rfl, hvalue, htime, ?_⟩
    cases hold : s.sample? key with
    | none =>
      rw [hold] at hx
      dsimp only at hx
      rw [hx]
      simp [Double.AtLeastZero, Double.same, Double.zero]
    | some old =>
      rw [hold] at hx
      rw [compareSamples_atLeastZero_iff (Value.isFinite_of_finite? hvalue) hx]
      simp

/-! ### A counter whose clock is set back -/

/-- The double of a computation that reports one. -/
def reported? : Except Failure Value → Option Double
  | .ok (.float x) => some x
  | _ => none

theorem eq_ok_of_reported? {r : Except Failure Value} {x : Double} (h : reported? r = some x) :
    r = .ok (.float x) := by
  unfold reported? at h
  split at h
  · cases h
    rfl
  · cases h

namespace Clock

/-- A store in which `k` was 1 at second 1010. -/
def seen : Store := ⟨[("k", ⟨.one, 1010⟩)]⟩

theorem seen_eq : (computeValue (.ofWhole 1010) (some .empty) "k" (.int 1) (.kind .prate)).2 =
    some seen := by
  decide +kernel

end Clock

open Clock in
/-- Ten seconds later, with ten more: one per second. -/
theorem reported_atLeastZero_iff_onward :
    resolveKind "k" (.kind .prate) = .ok .prate ∧ SourceKind.prate.isSampled = true ∧
      (computeValue (.ofWhole 1020) (some seen) "k" (.int 11) (.kind .prate)).1 =
        .ok (.float .one) ∧
      ∃ x value time, Value.float .one = .float x ∧ (Value.int 11).finite? = some value ∧
        wholeSecond (.ofWhole 1020) = .ok time ∧
        (x.AtLeastZero ↔
          ∀ old, seen.sample? "k" = some old → old.Climbs .prate ⟨value, time⟩) := by
  have hone : (computeValue (.ofWhole 1020) (some seen) "k" (.int 11) (.kind .prate)).1 =
      .ok (.float .one) := eq_ok_of_reported? (by decide +kernel)
  exact ⟨rfl, rfl, hone, reported_atLeastZero_iff rfl rfl hone⟩

open Clock in
/-- **A rate below zero**: ten more, but ten seconds earlier. -/
theorem rate_below_zero : ∃ x,
    (computeValue (.ofWhole 1000)
      (computeValue (.ofWhole 1010) (some .empty) "k" (.int 1) (.kind .prate)).2
      "k" (.int 11) (.kind .prate)).1 = .ok (.float x) ∧ ¬ x.AtLeastZero := by
  rw [seen_eq]
  exact ⟨Double.one.neg, eq_ok_of_reported? (by decide +kernel), by decide +kernel⟩

end Baseline
