import Baseline.Proofs.Number.Sign
import Baseline.Proofs.Sampling.Reading

/-!
# How old the sample is that a counter is compared with

A store file is trusted by its own age.  What stands in it may be older: a key that a run skips
is handed on with the second at which it was sampled.

* `SamplingRun` : a run that samples some keys at one time.
* `lastSampled` : the second at which a key was sampled last, as far as trusted files hand it on.
* `store_opened` : **the store that a run opens holds exactly these seconds.**
* `compared_within_iff` : **no sample is compared that is older than the time to live and one
  second exactly when none of these seconds is.**
* `rate_across_gap` : a rate over more than that, of a key that was skipped for once.
-/

set_option autoImplicit false

namespace Baseline

/-! ## Runs -/

/-- A run that opens its store, samples some keys and saves, all at one time. -/
structure SamplingRun where
  found : FileTree
  rooted : found.Rooted
  time : Double
  finite : time.isFinite = true
  readings : List Reading
  distinct : (readings.map (·.key)).Nodup

namespace SamplingRun

/-- The collector run that this is. -/
def run (r : SamplingRun) : CollectorRun where
  found := r.found
  rooted := r.rooted
  made := r.time
  opened := r.time
  calls := r.readings.map (·.call r.time)
  saved := r.time

/-- The second at which a run samples. -/
def second (r : SamplingRun) : Int := r.time.truncate?.getD 0

theorem wholeSecond_time (r : SamplingRun) : wholeSecond r.time = .ok r.second := by
  have hfinite := r.finite
  unfold second
  generalize r.time = time at hfinite ⊢
  cases time with
  | nan => cases hfinite
  | inf neg => cases hfinite
  | fin neg m => rfl

/-- Whether a run samples a key. -/
def Samples (r : SamplingRun) (key : String) : Prop :=
  ∃ m ∈ r.readings, m.key = key ∧ m.counted?.isSome = true

instance (r : SamplingRun) (key : String) : Decidable (r.Samples key) :=
  inferInstanceAs (Decidable (∃ m ∈ r.readings, m.key = key ∧ m.counted?.isSome = true))

end SamplingRun

/-- One reading changes the sample of its own key, and only if it is sampled. -/
theorem sample?_perform {m : Reading} {now : Double} {t : Int} (htime : wholeSecond now = .ok t)
    (s : Store) (key : String) :
    (((m.call now).perform s).2.sample? key).map (·.time) =
      if m.key = key ∧ m.counted?.isSome = true then some t
      else (s.sample? key).map (·.time) := by
  cases hcounted : m.counted? with
  | none =>
    rw [Reading.perform_not_counted hcounted]
    simp
  | some counted =>
    rw [Reading.perform_counted hcounted htime, Store.sample?]
    by_cases hkey : m.key = key
    · subst hkey
      simp [Table.get?_put_self]
    · rw [Table.get?_put_of_ne (Ne.symm hkey)]
      simp [hkey, Store.sample?]

/-- All readings change the samples of the keys that are sampled. -/
theorem sample?_performAll {now : Double} {t : Int} (htime : wholeSecond now = .ok t)
    (readings : List Reading) (s : Store) (key : String) :
    ((performAll s (readings.map (·.call now))).2.sample? key).map (·.time) =
      if ∃ m ∈ readings, m.key = key ∧ m.counted?.isSome = true then some t
      else (s.sample? key).map (·.time) := by
  induction readings generalizing s with
  | nil => simp [performAll]
  | cons m rest ih =>
    rw [List.map_cons, performAll]
    dsimp only
    rw [ih, sample?_perform htime]
    by_cases hrest : ∃ m ∈ rest, m.key = key ∧ m.counted?.isSome = true
    · rw [if_pos hrest, if_pos (hrest.imp fun m h => ⟨List.mem_cons_of_mem _ h.1, h.2⟩)]
    · rw [if_neg hrest]
      refine if_congr ?_ rfl rfl
      simp only [List.exists_mem_cons_iff, hrest, or_false]

/-! ## What the file hands on -/

/-- The second at which a key was sampled last, as far as trusted files hand it on: `earlier`
holds the runs before, the latest first. -/
def lastSampled (f : StoreFile) (key : String) (now : Double) : List SamplingRun → Option Int
  | [] => none
  | r :: earlier =>
    if f.Stale now r.time then none
    else if r.Samples key then some r.second
    else lastSampled f key r.time earlier

/-- Runs, the latest first, each of which found the file as the one before it had left it, and
the oldest of which found none. -/
structure Succession (f : StoreFile) (runs : List SamplingRun) : Prop where
  chain : runs.IsChain fun later before => before.run.Precedes later.run f
  oldest : ∀ r ∈ runs.getLast?, r.run.StartsAfresh f

theorem precedes_of_found {f : StoreFile} {before later : SamplingRun}
    (h : later.found = (before.run.perform f).tree) : before.run.Precedes later.run f := by
  unfold CollectorRun.Precedes
  rw [show later.run.found = later.found from rfl, h]
  exact ⟨rfl, rfl⟩

theorem isNan_quantityOfDouble {x : Double} (hx : x ≠ .nan) :
    (Value.quantityOfDouble x).isNan = false := by
  cases x with
  | nan => exact absurd rfl hx
  | inf neg => rfl
  | fin neg m => rfl

/-- A file whose time to live is a number is trusted or stale. -/
theorem trusted_or_stale {f : StoreFile} {ttl : Value.Quantity}
    (httl : f.ttl.quantity? = some ttl) (hnumber : ttl.isNan = false) {now written : Double}
    (hnow : now.isFinite = true) (hwritten : written.isFinite = true) :
    f.Trusted now written ∨ f.Stale now written := by
  have hage : StoreFile.age now written ≠ .nan :=
    mt (Double.sub_eq_nan_iff hnow written).mp (Double.ne_nan_of_isFinite hwritten)
  unfold StoreFile.Trusted StoreFile.Stale
  unfold Value.relates
  unfold Value.relates.byQuantity
  rw [httl, Value.quantity?]
  dsimp only
  rw [isNan_quantityOfDouble hage, hnumber, Bool.or_self, Bool.and_false,
    if_neg Bool.false_ne_true, Except.ok.injEq, Except.ok.injEq]
  exact Bool.eq_false_or_eq_true _ |>.symm

/-- **The store that a run opens holds the seconds at which its keys were sampled last**, as far
as trusted files handed them on. -/
theorem store_opened {f : StoreFile} {ttl : Value.Quantity} (httl : f.ttl.quantity? = some ttl)
    (hnumber : ttl.isNan = false) {r : SamplingRun} {earlier : List SamplingRun}
    (hruns : Succession f (r :: earlier)) :
    ∃ s, (f.openStore r.found r.time r.time).result = .ok s ∧ s.Lasting ∧
      (f.openStore r.found r.time r.time).tree.Writable f.path ∧
      ∀ key, (s.sample? key).map (·.time) = lastSampled f key r.time earlier := by
  induction earlier generalizing r with
  | nil =>
    obtain ⟨tree, dir, last, hmade, hfree⟩ := hruns.oldest r rfl
    obtain ⟨hopen, hwritable⟩ := StoreFile.openStore_missing r.time hmade hfree
    exact ⟨.empty, hopen, .empty, hwritable, fun key => rfl⟩
  | cons before earlier ih =>
    obtain ⟨hlink, hchain⟩ := List.isChain_cons_cons.mp hruns.chain
    obtain ⟨s, hopen, hs, hwritable, hsamples⟩ := ih ⟨hchain, hruns.oldest⟩
    have hopen' : (f.openStore before.run.found before.run.made before.run.opened).result = .ok s :=
      hopen
    obtain ⟨_, tree, hsave, hleft⟩ := CollectorRun.perform_opened hopen' hwritable
    rw [CollectorRun.Precedes, hleft] at hlink
    have hlasting := hs.performAll before.run.calls
    -- the file is handed on as it was saved, or the store begins anew
    rcases trusted_or_stale httl hnumber r.finite before.finite with htrusted | hstale
    · obtain ⟨hagain, hwritable'⟩ := StoreFile.openStore_saved r.time hlasting.toFileable hsave
        hlink r.rooted htrusted
      rw [if_pos hlasting.finite] at hagain
      refine ⟨_, hagain, hlasting, hwritable', fun key => ?_⟩
      rw [lastSampled, if_neg htrusted.not_stale, ← hsamples]
      exact sample?_performAll before.wholeSecond_time before.readings s key
    · obtain ⟨hagain, hwritable'⟩ := StoreFile.openStore_stale r.time hsave hlink r.rooted hstale
      refine ⟨.empty, hagain, .empty, hwritable', fun key => ?_⟩
      rw [lastSampled, if_pos hstale]
      rfl

/-! ## What is compared -/

/-- The previous samples that the readings of a run are compared with. -/
def comparisons (now : Double) (s : Store) : List Reading → List Sample
  | [] => []
  | m :: rest =>
    (m.compared? s).toList ++ comparisons now ((m.call now).perform s).2 rest

/-- When no key is read twice, every reading is compared with what the opened store holds. -/
theorem mem_comparisons {now : Double} {readings : List Reading}
    (hdistinct : (readings.map (·.key)).Nodup) {s : Store} {old : Sample} :
    old ∈ comparisons now s readings ↔ ∃ m ∈ readings, m.compared? s = some old := by
  induction readings generalizing s with
  | nil => simp [comparisons]
  | cons m rest ih =>
    rw [List.map_cons, List.nodup_cons] at hdistinct
    have hframe : ∀ n ∈ rest, n.compared? ((m.call now).perform s).2 = n.compared? s := by
      intro n hn
      have hkey : m.key ≠ n.key := fun h => hdistinct.1 (h ▸ List.mem_map_of_mem hn)
      rw [Reading.compared?, Reading.compared?, sample?_perform_of_ne hkey]
    rw [comparisons, List.mem_append, Option.mem_toList, ih hdistinct.2,
      List.exists_mem_cons_iff]
    refine or_congr Iff.rfl (exists_congr fun n => and_congr_right fun hn => ?_)
    rw [hframe n hn]

/-- Whether a sample was taken at most the time to live before a store was opened, give or take
the second that truncation costs: `opened - time ≤ ttl + 1`, with the denominators multiplied
out. -/
def StoreFile.isWithin (f : StoreFile) (opened : Double) (time : Int) : Bool :=
  match opened.units?, f.ttl.quantity? with
  | some units, some (.exact num den) =>
    (units - time * Double.unitsPerOne) * den ≤ (num + den) * Double.unitsPerOne
  | some _, some (.infinite neg) => !neg
  | _, _ => false

/-- **No sample is compared that is older than the time to live and one second exactly when no
key was sampled last before that**: the file may have been handed on through any number of runs
that skipped the key, each of them soon enough after the one before. -/
theorem compared_within_iff {f : StoreFile} {ttl : Value.Quantity}
    (httl : f.ttl.quantity? = some ttl) (hnumber : ttl.isNan = false) {r : SamplingRun}
    {earlier : List SamplingRun} (hruns : Succession f (r :: earlier)) :
    ∃ s, (f.openStore r.found r.time r.time).result = .ok s ∧
      ((∀ old ∈ comparisons r.time s r.readings, f.isWithin r.time old.time = true) ↔
        ∀ key, r.Samples key → ∀ time, lastSampled f key r.time earlier = some time →
          f.isWithin r.time time = true) := by
  obtain ⟨s, hopen, _, _, hsamples⟩ := store_opened httl hnumber hruns
  refine ⟨s, hopen, ?_⟩
  constructor
  · rintro hall key ⟨m, hm, rfl, hcounted⟩ time hlast
    rw [← hsamples, Option.map_eq_some_iff] at hlast
    obtain ⟨old, hold, rfl⟩ := hlast
    refine hall old ((mem_comparisons r.distinct).mpr ⟨m, hm, ?_⟩)
    rw [Reading.compared?, if_pos hcounted, hold]
  · intro hall old hmem
    obtain ⟨m, hm, hcompared⟩ := (mem_comparisons r.distinct).mp hmem
    unfold Reading.compared? at hcompared
    split at hcompared
    · rename_i hcounted
      have hlast := hsamples m.key
      rw [hcompared, Option.map_some] at hlast
      exact hall m.key ⟨m, hm, rfl, hcounted⟩ old.time hlast.symm
    · cases hcompared

/-! ### A key that is skipped once -/

namespace Skipped

/-- Samples `k`. -/
def first : SamplingRun where
  found := .empty
  rooted := FileTree.rooted_empty
  time := .ofWhole 1000
  finite := by decide +kernel
  readings := [⟨"k", .int 1, .kind .rate⟩]
  distinct := List.pairwise_singleton _ _

/-- Samples `j` 50 seconds later. -/
def middle : SamplingRun where
  found := (first.run.perform minuteFile).tree
  rooted := show FileTree.node? _ _ = none by decide +kernel
  time := .ofWhole 1050
  finite := by decide +kernel
  readings := [⟨"j", .int 1, .kind .rate⟩]
  distinct := List.pairwise_singleton _ _

/-- Samples `k` again, after another 50 seconds. -/
def last : SamplingRun where
  found := (middle.run.perform minuteFile).tree
  rooted := show FileTree.node? _ _ = none by decide +kernel
  time := .ofWhole 1100
  finite := by decide +kernel
  readings := [⟨"k", .int 101, .kind .rate⟩]
  distinct := List.pairwise_singleton _ _

theorem found_middle : middle.found = (first.run.perform minuteFile).tree := by
  unfold middle
  dsimp only

theorem found_last : last.found = (middle.run.perform minuteFile).tree := by
  unfold last
  dsimp only

theorem succession : Succession minuteFile [last, middle, first] where
  chain := .cons_cons (precedes_of_found found_last)
    (.cons_cons (precedes_of_found found_middle) (.singleton first))
  oldest := by
    intro r hr
    cases hr
    exact ⟨.empty, [], "s.json", rfl, rfl⟩

end Skipped

open Skipped in
theorem compared_within_iff_skipped :
    minuteFile.ttl.quantity? = some (.exact 60 1) ∧
      (Value.Quantity.exact 60 1).isNan = false ∧
      Succession minuteFile [last, middle, first] ∧
      ∃ s, (minuteFile.openStore last.found last.time last.time).result = .ok s ∧
        ((∀ old ∈ comparisons last.time s last.readings,
            minuteFile.isWithin last.time old.time = true) ↔
          ∀ key, last.Samples key → ∀ time,
            lastSampled minuteFile key last.time [middle, first] = some time →
              minuteFile.isWithin last.time time = true) :=
  ⟨rfl, rfl, succession, compared_within_iff rfl rfl succession⟩

open Skipped in
/-- **A rate across a gap that is longer than the time to live**: over 100 seconds, where 60 and
one are allowed. -/
theorem rate_across_gap :
    ∃ s, (minuteFile.openStore last.found last.time last.time).result = .ok s ∧
      ∃ old ∈ comparisons last.time s last.readings,
        minuteFile.isWithin last.time old.time = false := by
  obtain ⟨s, hopen, _, _, hsamples⟩ := store_opened rfl rfl succession
  have hlast : lastSampled minuteFile "k" last.time [middle, first] = some 1000 := by decide +kernel
  have hk := hsamples "k"
  rw [hlast, Option.map_eq_some_iff] at hk
  obtain ⟨old, hold, htime⟩ := hk
  have hread : (⟨"k", .int 101, .kind .rate⟩ : Reading) ∈ last.readings := List.mem_cons_self
  have hcompared : (⟨"k", .int 101, .kind .rate⟩ : Reading).compared? s = some old := by
    rw [Reading.compared?, if_pos (by decide +kernel)]
    exact hold
  refine ⟨s, hopen, old, (mem_comparisons last.distinct).mpr ⟨_, hread, hcompared⟩, ?_⟩
  rw [htime]
  decide +kernel

end Baseline
