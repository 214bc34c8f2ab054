import Baseline.Proofs.Number.Rounding
import Baseline.Proofs.Sampling.Reading

/-!
# What a counter reports, told from its history

A store keeps one sample of every key.  What it keeps is told here from the calls that were made
alone: the last call that changed the sample of a key decides.

* `TimedCall.change?` : what a call did to the sample of a key.
* `latestSample` : the last sample of a key since it was last deleted.
* `sample?_eq_latestSample` : **after any calls the store holds these samples and no others.**
* `Reports` : what a counter reports, given its last sample and the new one.
* `counter_reports_iff` : **after any calls a counter reports exactly that, and its new sample is
  recorded in any case.**
-/

set_option autoImplicit false

namespace Baseline

/-! ## The seconds of a clock -/

namespace Double

/-- A number below `2 ^ 53` in absolute value. -/
def Moderate (x : Double) : Prop := ∃ u ∈ x.units?, u.natAbs < 2 ^ 53 * unitsPerOne

instance (x : Double) : Decidable x.Moderate :=
  inferInstanceAs (Decidable (∃ u ∈ x.units?, u.natAbs < 2 ^ 53 * unitsPerOne))

end Double

/-- A moderate clock reading has a second, which is below the same bound. -/
theorem wholeSecond_of_moderate {now : Double} (h : now.Moderate) :
    ∃ time, wholeSecond now = .ok time ∧ time.natAbs < 2 ^ 53 := by
  obtain ⟨u, hunits, hbound⟩ := h
  cases now with
  | nan => cases hunits
  | inf neg => cases hunits
  | fin neg m =>
    refine ⟨u.tdiv Double.unitsPerOne, ?_, ?_⟩
    · simp only [wholeSecond, Double.truncate?]
      rw [Option.mem_def.mp hunits]
      rfl
    · rw [Int.natAbs_tdiv, Int.natAbs_natCast]
      exact (Nat.div_lt_iff_lt_mul Double.unitsPerOne_pos).mpr hbound

/-! ## The last sample -/

/-- What a call did to the sample of a key, if it did anything: it recorded one or removed it. -/
def TimedCall.change? (key : String) (c : TimedCall) : Option (Option Sample) :=
  match c.call with
  | .delete k => if k = key then some none else none
  | .compute k raw declared =>
    match (⟨k, raw, declared⟩ : Reading).counted?, wholeSecond c.now with
    | some (_, value), .ok time => if k = key then some (some ⟨value, time⟩) else none
    | _, _ => none

/-- The last sample of a key since it was last deleted: the last call that changed it decides. -/
def latestSample (key : String) (history : List TimedCall) : Option Sample :=
  (history.reverse.findSome? (·.change? key)).join

theorem latestSample_concat (key : String) (history : List TimedCall) (c : TimedCall) :
    latestSample key (history ++ [c]) = (c.change? key).getD (latestSample key history) := by
  unfold latestSample
  rw [List.reverse_concat, List.findSome?_cons]
  cases c.change? key <;> rfl

/-- **One call changes the sample of a key as it says.** -/
theorem sample?_perform_eq (c : TimedCall) (s : Store) (key : String) :
    (c.perform s).2.sample? key = (c.change? key).getD (s.sample? key) := by
  obtain ⟨now, call⟩ := c
  cases call with
  | delete k =>
    simp only [TimedCall.perform, TimedCall.change?, Store.delete, Store.sample?]
    by_cases hkey : k = key
    · subst hkey
      simp [Table.get?_erase_self]
    · simp [hkey, Table.get?_erase_of_ne (Ne.symm hkey)]
  | compute k raw declared =>
    have hcall : (⟨now, .compute k raw declared⟩ : TimedCall) =
        (⟨k, raw, declared⟩ : Reading).call now := rfl
    rw [hcall]
    cases hcounted : (⟨k, raw, declared⟩ : Reading).counted? with
    | none =>
      rw [Reading.perform_not_counted hcounted]
      simp [TimedCall.change?, Reading.call, hcounted]
    | some counted =>
      obtain ⟨kind, value⟩ := counted
      cases htime : wholeSecond now with
      | error f =>
        rw [Reading.perform_fault hcounted htime]
        simp [TimedCall.change?, Reading.call, hcounted, htime]
      | ok time =>
        rw [Reading.perform_counted hcounted htime]
        simp only [TimedCall.change?, Reading.call, hcounted, htime, Store.sample?]
        by_cases hkey : k = key
        · subst hkey
          simp [Table.get?_put_self]
        · simp [hkey, Table.get?_put_of_ne (Ne.symm hkey)]

/-- **After any calls the store holds the last sample of every key.** -/
theorem sample?_eq_latestSample (history : List TimedCall) (key : String) :
    (performAll .empty history).2.sample? key = latestSample key history := by
  induction history using List.reverseRecOn with
  | nil => rfl
  | append_singleton history c ih =>
    rw [performAll_append, latestSample_concat, ← ih]
    exact sample?_perform_eq c _ key

/-- The last sample was taken at the second of one of the calls. -/
theorem time_of_latestSample {key : String} {history : List TimedCall} {e : Sample}
    (h : latestSample key history = some e) : ∃ c ∈ history, wholeSecond c.now = .ok e.time := by
  unfold latestSample at h
  rw [Option.join_eq_some_iff] at h
  obtain ⟨c, hc, hchange⟩ := List.exists_of_findSome?_eq_some h
  refine ⟨c, List.mem_reverse.mp hc, ?_⟩
  unfold TimedCall.change? at hchange
  split at hchange
  · split at hchange <;> cases hchange
  · split at hchange
    · rename_i htime
      split at hchange
      · cases hchange
        exact htime
      · cases hchange
    · cases hchange

/-! ## Reports -/

/-- What a counter of a kind reports, when its last sample was `old` and now it is `new`. -/
inductive Reports (key : String) (kind : SourceKind) (new : Sample) :
    (old : Option Sample) → Except Failure Value → Prop
  | first : Reports key kind new none (.ok (.float .zero))
  | tooClose {old : Sample} (htime : old.time = new.time) :
      Reports key kind new (some old) (.error (.reported (.tooClose key new.time)))
  | reset {old : Sample} (htime : old.time ≠ new.time)
      (hless : (new.value.sub old.value).less .zero = true) :
      Reports key kind new (some old)
        (.error (.reported (.counterReset key old.value new.value)))
  | change {old : Sample} (htime : old.time ≠ new.time)
      (hless : (new.value.sub old.value).less .zero = false)
      (hkind : kind = .delta ∨ kind = .pdelta) :
      Reports key kind new (some old) (.ok (.float (new.value.sub old.value)))
  | perSecond {old : Sample} {seconds : Double} (htime : old.time ≠ new.time)
      (hless : (new.value.sub old.value).less .zero = false)
      (hkind : kind = .rate ∨ kind = .prate)
      (hseconds : Double.ofInt? (new.time - old.time) = some seconds) :
      Reports key kind new (some old) (.ok (.float ((new.value.sub old.value).div seconds)))

/-- Comparing two samples of a counter gives what it reports. -/
theorem reports_compareSamples {key : String} {kind : SourceKind} {old new : Sample}
    (hsampled : kind.isSampled = true)
    (hseconds : ∃ seconds, Double.ofInt? (new.time - old.time) = some seconds) :
    Reports key kind new (some old) ((compareSamples key kind old new).map .float) := by
  obtain ⟨seconds, hseconds⟩ := hseconds
  unfold compareSamples
  dsimp only
  split
  · rename_i helapsed
    exact .tooClose (by omega)
  rename_i helapsed
  have htime : old.time ≠ new.time := by omega
  split
  · rename_i hless
    exact .reset htime hless
  rename_i hless
  rw [Bool.not_eq_true] at hless
  split
  · rename_i hrate
    rw [hseconds]
    refine .perSecond htime hless ?_ hseconds
    cases kind <;> simp_all [SourceKind.isRate]
  · rename_i hrate
    refine .change htime hless ?_
    cases kind <;> simp_all [SourceKind.isRate, SourceKind.isSampled]

/-- What a counter reports is what comparing its two samples gives. -/
theorem Reports.eq_compareSamples {key : String} {kind : SourceKind} {old new : Sample}
    {r : Except Failure Value} (h : Reports key kind new (some old) r) :
    (compareSamples key kind old new).map .float = r := by
  have helapsed : old.time ≠ new.time → new.time - old.time ≠ 0 := by omega
  cases h with
  | tooClose htime =>
    rw [compareSamples, htime, Int.sub_self, if_pos rfl]
    rfl
  | reset htime hless =>
    rw [compareSamples, if_neg (helapsed htime), if_pos hless]
    rfl
  | change htime hless hkind =>
    have hrate : kind.isRate = false := by rcases hkind with rfl | rfl <;> rfl
    have hok : compareSamples key kind old new = .ok (new.value.sub old.value) :=
      compareSamples_eq_ok.mpr ⟨Ne.symm htime, hless, by rw [hrate]; rfl⟩
    rw [hok]
    rfl
  | perSecond htime hless hkind hseconds =>
    rename_i seconds
    have hrate : kind.isRate = true := by rcases hkind with rfl | rfl <;> rfl
    have hok : compareSamples key kind old new = .ok ((new.value.sub old.value).div seconds) :=
      compareSamples_eq_ok.mpr
        ⟨Ne.symm htime, hless, by rw [hrate]; exact ⟨seconds, hseconds, rfl⟩⟩
    rw [hok]
    rfl

/-- **What a counter reports**, when the clock shows a second and its last sample is not too far
from it: one thing and no other. -/
theorem perform_eq_iff_reports {key : String} {raw declared : Value} {kind : SourceKind}
    {value now : Double} {time : Int} {s : Store} (hkind : resolveKind key declared = .ok kind)
    (hsampled : kind.isSampled = true) (hvalue : raw.finite? = some value)
    (htime : wholeSecond now = .ok time)
    (hseconds : ∀ old, s.sample? key = some old →
      ∃ seconds, Double.ofInt? (time - old.time) = some seconds) (r : Except Failure Value) :
    ((⟨now, .compute key raw declared⟩ : TimedCall).perform s).1 = r ↔
      Reports key kind ⟨value, time⟩ (s.sample? key) r := by
  have hcounted : (⟨key, raw, declared⟩ : Reading).counted? = some (kind, value) :=
    Reading.counted?_eq_some.mpr ⟨hkind, hvalue, hsampled⟩
  have hperform := congrArg Prod.fst (Reading.perform_counted hcounted htime s)
  rw [Reading.call] at hperform
  rw [hperform, Reading.compared?, hcounted, Option.isSome_some, if_pos rfl]
  dsimp only
  cases hold : s.sample? key with
  | none =>
    constructor
    · rintro rfl
      exact .first
    · intro h
      cases h
      rfl
  | some old =>
    constructor
    · rintro rfl
      exact reports_compareSamples hsampled (hseconds old hold)
    · exact Reports.eq_compareSamples

/-- **What a counter reports is determined by its last sample, and its new sample is recorded in
any case.**  After any calls from an empty store, at any moderate clock readings, computing a
counter reports what its last sample since it was last deleted says; afterwards its sample is the
new value at the second of the clock, and the sample of no other key has changed. -/
theorem counter_reports_iff {history : List TimedCall} (hhistory : ∀ c ∈ history, c.now.Moderate)
    {now : Double} (hnow : now.Moderate) {key : String} {raw declared : Value} {kind : SourceKind}
    {value : Double} (hkind : resolveKind key declared = .ok kind)
    (hsampled : kind.isSampled = true) (hvalue : raw.finite? = some value) :
    ∃ time, wholeSecond now = .ok time ∧
      (∀ r, ((⟨now, .compute key raw declared⟩ : TimedCall).perform
          (performAll .empty history).2).1 = r ↔
        Reports key kind ⟨value, time⟩ (latestSample key history) r) ∧
      ((⟨now, .compute key raw declared⟩ : TimedCall).perform
          (performAll .empty history).2).2.sample? key = some ⟨value, time⟩ ∧
      ∀ other, other ≠ key →
        ((⟨now, .compute key raw declared⟩ : TimedCall).perform
            (performAll .empty history).2).2.sample? other =
          (performAll .empty history).2.sample? other := by
  obtain ⟨time, htime, hbound⟩ := wholeSecond_of_moderate hnow
  have hcounted : (⟨key, raw, declared⟩ : Reading).counted? = some (kind, value) :=
    Reading.counted?_eq_some.mpr ⟨hkind, hvalue, hsampled⟩
  -- two moderate readings are less than `2 ^ 54` seconds apart
  have hseconds : ∀ old, latestSample key history = some old →
      ∃ seconds, Double.ofInt? (time - old.time) = some seconds := by
    intro old hold
    obtain ⟨c, hc, hsecond⟩ := time_of_latestSample hold
    obtain ⟨second, hsecond', hbound'⟩ := wholeSecond_of_moderate (hhistory c hc)
    rw [hsecond, Except.ok.injEq] at hsecond'
    exact Double.ofInt?_isSome (by omega)
  refine ⟨time, htime, ?_, ?_, ?_⟩
  · rw [← sample?_eq_latestSample] at hseconds ⊢
    exact perform_eq_iff_reports hkind hsampled hvalue htime hseconds
  · rw [sample?_perform_eq]
    simp [TimedCall.change?, hcounted, htime]
  · intro other hother
    exact sample?_perform_of_ne (m := ⟨key, raw, declared⟩) (Ne.symm hother) now _

/-! ### A counter that was reset -/

namespace Restarted

/-- A counter of 5, which is 3 ten seconds later: that round fails, but its sample counts.  Then
another key is read with the clock set back, and is forgotten. -/
def history : List TimedCall := [
  ⟨.ofWhole 1000, .compute "k" (.int 5) (.kind .rate)⟩,
  ⟨.ofWhole 1010, .compute "k" (.int 3) (.kind .rate)⟩,
  ⟨.ofWhole 990, .compute "j" (.int 8) (.kind .delta)⟩,
  ⟨.ofWhole 990, .delete "j"⟩]

theorem moderate : ∀ c ∈ history, c.now.Moderate := by decide +kernel

end Restarted

open Restarted in
theorem counter_reports_iff_restarted :
    (∀ c ∈ history, c.now.Moderate) ∧ (Double.ofWhole 1020).Moderate ∧
      resolveKind "k" (.text "prate") = .ok .prate ∧ SourceKind.prate.isSampled = true ∧
      (Value.text "13").finite? = some (.ofWhole 13) ∧
      ∃ time, wholeSecond (.ofWhole 1020) = .ok time ∧
        (∀ r, ((⟨.ofWhole 1020, .compute "k" (.text "13") (.text "prate")⟩ : TimedCall).perform
            (performAll .empty history).2).1 = r ↔
          Reports "k" .prate ⟨.ofWhole 13, time⟩ (latestSample "k" history) r) ∧
        ((⟨.ofWhole 1020, .compute "k" (.text "13") (.text "prate")⟩ : TimedCall).perform
            (performAll .empty history).2).2.sample? "k" = some ⟨.ofWhole 13, time⟩ ∧
        ∀ other, other ≠ "k" →
          ((⟨.ofWhole 1020, .compute "k" (.text "13") (.text "prate")⟩ : TimedCall).perform
              (performAll .empty history).2).2.sample? other =
            (performAll .empty history).2.sample? other := by
  have hnow : (Double.ofWhole 1020).Moderate := by decide +kernel
  have hvalue : (Value.text "13").finite? = some (.ofWhole 13) := by decide +kernel
  exact ⟨moderate, hnow, rfl, rfl, hvalue, counter_reports_iff moderate hnow rfl rfl hvalue⟩

end Baseline
