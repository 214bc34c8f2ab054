import Baseline.Proofs.Sampling.Resets
import Baseline.Proofs.Store.Opening

/-!
# When a report is a finite number

The raw value of a counter has to be finite, but neither has its old sample, where that was read
from a file, nor the difference of the two.

* `Double.DifferenceInRange` : two finite numbers whose difference is finite.
* `sample?_of_not_finite` : a sample that is not finite has been there from the beginning.
* `loaded_of_sample?` : what is there at the beginning was read from the file.
* `reported_isFinite_iff` : **which rates and changes are finite, and whence the others come.**
* `reports_not_finite` : a NaN in the file is reported on, and a change that is too large is
  infinite.
-/

set_option autoImplicit false

namespace Baseline

/-! ## Differences -/

/-- Two finite numbers whose exact difference is within the finite range: it is not beyond
`2 ^ 1024 - 2 ^ 970`, half a step above the largest finite number. -/
def Double.DifferenceInRange (x y : Double) : Prop :=
  ∃ u ∈ x.units?, ∃ v ∈ y.units?, (u - v).natAbs < Magnitude.rangeEnd

instance (x y : Double) : Decidable (x.DifferenceInRange y) :=
  inferInstanceAs
    (Decidable (∃ u ∈ x.units?, ∃ v ∈ y.units?, (u - v).natAbs < Magnitude.rangeEnd))

/-- A finite number less another one is finite when their difference is in range. -/
theorem Double.isFinite_sub_iff_inRange {x : Double} (hx : x.isFinite = true) (y : Double) :
    (x.sub y).isFinite = true ↔ x.DifferenceInRange y := by
  obtain ⟨u, hu⟩ := isFinite_iff_units?.mp hx
  cases hv : y.units? with
  | some v => simp [DifferenceInRange, hu, hv, isFinite_sub_iff hu hv]
  | none =>
    -- a number without units is left over by every finite one
    have hleft : (x.sub y).isFinite = false := by
      cases x with
      | fin s a =>
        cases y with
        | fin t b => cases hv
        | _ => rfl
      | _ => cases hu
    simp [DifferenceInRange, hv, hleft]

/-- What two samples of a counter report is finite when their difference is in range: no rate is
larger than its change. -/
theorem compareSamples_isFinite_iff {key : String} {kind : SourceKind} {old new : Sample}
    {x : Double} (hfinite : new.value.isFinite = true)
    (h : compareSamples key kind old new = .ok x) :
    x.isFinite = true ↔ new.value.DifferenceInRange old.value := by
  obtain ⟨hne, -, hx⟩ := compareSamples_eq_ok.mp h
  rw [← Double.isFinite_sub_iff_inRange hfinite]
  split at hx
  · obtain ⟨seconds, hseconds, rfl⟩ := hx
    have helapsed : new.time - old.time ≠ 0 := fun h => hne (Int.sub_eq_zero.mp h)
    exact Double.isFinite_div_iff helapsed hseconds
  · rw [hx]

/-! ## Samples that are not finite -/

/-- A call records finite values only. -/
theorem isFinite_of_change? {key : String} {c : TimedCall} {e : Sample}
    (h : c.change? key = some (some e)) : e.value.isFinite = true := by
  unfold TimedCall.change? at h
  split at h
  · split at h <;> cases h
  · split at h
    · rename_i hcounted _
      split at h
      · cases h
        exact Value.isFinite_of_finite? (Reading.counted?_eq_some.mp hcounted).2.1
      · cases h
    · cases h

/-- **A sample that is not finite has been there from the beginning**: no call has changed it. -/
theorem sample?_of_not_finite {s : Store} {calls : List TimedCall} {key : String} {old : Sample}
    (hold : (performAll s calls).2.sample? key = some old) (hfinite : old.value.isFinite = false) :
    s.sample? key = some old ∧ ∀ c ∈ calls, c.change? key = none := by
  induction calls generalizing s with
  | nil => exact ⟨hold, by simp⟩
  | cons c rest ih =>
    obtain ⟨hstep, hrest⟩ := ih hold
    rw [sample?_perform_eq] at hstep
    cases hchange : c.change? key with
    | none =>
      rw [hchange, Option.getD_none] at hstep
      exact ⟨hstep, List.forall_mem_cons.mpr ⟨hchange, hrest⟩⟩
    | some e =>
      rw [hchange, Option.getD_some] at hstep
      subst hstep
      rw [isFinite_of_change? hchange] at hfinite
      cases hfinite

/-- A store that was opened is the one of what was found. -/
theorem StoreFile.find_of_openStore {f : StoreFile} {tree : FileTree} {time now : Double}
    {s : Store} (h : (f.openStore tree time now).result = .ok s) :
    ∃ finding, f.find (f.openStore tree time now).tree now = .ok finding ∧ s = finding.store := by
  rw [openStore_tree]
  rw [openStore_eq] at h
  cases hmake : tree.makeDirectories time f.path.parent with
  | mk result made =>
    rw [hmake] at h
    cases result with
    | error g => cases h
    | ok =>
      dsimp only at h ⊢
      cases hfind : f.find made now with
      | error e => rw [hfind] at h; cases h
      | ok finding =>
        rw [hfind] at h
        cases h
        exact ⟨finding, rfl, rfl⟩

/-- **What is there at the beginning was read from the file.** -/
theorem loaded_of_sample? {f : StoreFile} {tree : FileTree} {time opened : Double} {s : Store}
    (hopened : (f.openStore tree time opened).result = .ok s) {key : String} {old : Sample}
    (hold : s.sample? key = some old) :
    ∃ snapshot, f.find (f.openStore tree time opened).tree opened = .ok (.loaded snapshot) ∧
      snapshot.data.get? key = some old.value := by
  obtain ⟨finding, hfind, rfl⟩ := StoreFile.find_of_openStore hopened
  cases finding with
  | loaded snapshot =>
    have hkeys := (Store.fileable_of_find_loaded hfind).dataKeys
    exact ⟨snapshot, hfind, ((Store.sample?_ofSnapshot hkeys).mp hold).1⟩
  | _ => cases hold

/-! ## Reports -/

/-- **Which rates and changes are finite, and whence the others come.**  After a store was opened
from any file and any calls were made, a reported rate or change is a finite number exactly when
the raw value and its old sample are so and their difference is in range.  An old sample that is
not finite was read from the file, and no call has changed it since. -/
theorem reported_isFinite_iff {f : StoreFile} {tree : FileTree} {time opened : Double}
    {first : Store} (hopened : (f.openStore tree time opened).result = .ok first)
    {calls : List TimedCall} {now : Double} {key : String} {raw declared v : Value}
    {kind : SourceKind} (hkind : resolveKind key declared = .ok kind)
    (hsampled : kind.isSampled = true)
    (h : (computeValue now (some (performAll first calls).2) key raw declared).1 = .ok v) :
    ∃ x value, v = .float x ∧ raw.finite? = some value ∧
      (x.isFinite = true ↔ ∀ old, (performAll first calls).2.sample? key = some old →
        value.DifferenceInRange old.value) ∧
      ∀ old, (performAll first calls).2.sample? key = some old → old.value.isFinite = false →
        (∀ c ∈ calls, c.change? key = none) ∧
          ∃ snapshot,
            f.find (f.openStore tree time opened).tree opened = .ok (.loaded snapshot) ∧
            snapshot.data.get? key = some old.value := by
  rw [computeValue_sampled hkind hsampled] at h
  split at h
  · cases h
  rename_i value hvalue
  dsimp only at h
  cases hresult : (sampleCounter now key value kind (performAll first calls).2).1 with
  | error e => rw [hresult] at h; cases h
  | ok x =>
    rw [hresult] at h
    cases h
    obtain ⟨_, _, hx⟩ := sampleCounter_eq_ok.mp hresult
    refine ⟨x, value, rfl, hvalue, ?_, fun old hold hfinite => ?_⟩
    · cases hold : (performAll first calls).2.sample? key with
      | none =>
        rw [hold] at hx
        simp only [hx, reduceCtorEq, false_implies, implies_true, iff_true]
        rfl
      | some old =>
        rw [hold] at hx
        rw [compareSamples_isFinite_iff (Value.isFinite_of_finite? hvalue) hx]
        simp
    · obtain ⟨hfirst, hcalls⟩ := sample?_of_not_finite hold hfinite
      exact ⟨hcalls, loaded_of_sample? hopened hfirst⟩

/-! ### A file with a NaN -/

namespace NanLoaded

/-- A fresh file in which the value of `k` is no number. -/
def found : FileTree :=
  ⟨[(["s.json"],
    .file (Text.encodeUtf8 "\x7b\"Data\":\x7b\"k\":NaN\x7d,\"Timestamps\":\x7b\"k\":990\x7d\x7d")
      (.ofWhole 1000))]⟩

/-- What it holds. -/
def snapshot : Snapshot := ⟨[("k", .nan)], [("k", 990)]⟩

/-- Another key is read before. -/
def calls : List TimedCall := [⟨.ofWhole 1000, .compute "j" (.int 1) (.kind .rate)⟩]

theorem find_found : minuteFile.find found (.ofWhole 1000) = .ok (.loaded snapshot) :=
  Snapshot.eq_ok_of_toOption (by decide +kernel)

theorem opened :
    (minuteFile.openStore found (.ofWhole 1000) (.ofWhole 1000)).result =
      .ok (Store.ofSnapshot snapshot) := by
  have hmake : found.makeDirectories (.ofWhole 1000) minuteFile.path.parent = (.ok (), found) := rfl
  rw [StoreFile.openStore_eq]
  rw [hmake]
  dsimp only
  rw [find_found]
  rfl

theorem reported :
    (computeValue (.ofWhole 1000) (some (performAll (.ofSnapshot snapshot) calls).2) "k" (.int 5)
      (.kind .rate)).1 = .ok (.float .nan) :=
  eq_ok_of_reported? (by decide +kernel)

end NanLoaded

open NanLoaded in
theorem reported_isFinite_iff_nanLoaded :
    (minuteFile.openStore found (.ofWhole 1000) (.ofWhole 1000)).result =
        .ok (Store.ofSnapshot snapshot) ∧
      ∃ x value, Value.float .nan = .float x ∧ (Value.int 5).finite? = some value ∧
        (x.isFinite = true ↔ ∀ old,
          (performAll (.ofSnapshot snapshot) calls).2.sample? "k" = some old →
            value.DifferenceInRange old.value) ∧
        ∀ old, (performAll (.ofSnapshot snapshot) calls).2.sample? "k" = some old →
          old.value.isFinite = false →
          (∀ c ∈ calls, c.change? "k" = none) ∧
            ∃ loaded, minuteFile.find
                (minuteFile.openStore found (.ofWhole 1000) (.ofWhole 1000)).tree (.ofWhole 1000) =
                  .ok (.loaded loaded) ∧
              loaded.data.get? "k" = some old.value := by
  have hkind : resolveKind "k" (.kind .rate) = .ok .rate := rfl
  exact ⟨opened, reported_isFinite_iff opened hkind rfl reported⟩

open NanLoaded in
/-- **Reports that are no finite numbers**: a NaN in a file is accepted, and NaN is reported; and
from the least finite number to the largest the change is infinite. -/
theorem reports_not_finite :
    (∃ s, (minuteFile.openStore found (.ofWhole 1000) (.ofWhole 1000)).result = .ok s ∧
      (computeValue (.ofWhole 1000) (some (performAll s calls).2) "k" (.int 5)
        (.kind .rate)).1 = .ok (.float .nan)) ∧
    (computeValue (.ofWhole 1010)
      (some (performAll .empty
        [⟨.ofWhole 1000, .compute "k" (.float (.fin true .largest)) (.kind .delta)⟩]).2)
      "k" (.float (.fin false .largest)) (.kind .delta)).1 = .ok (.float (.inf false)) :=
  ⟨⟨_, opened, reported⟩, eq_ok_of_reported? (by decide +kernel)⟩

end Baseline
