import Mathlib.Logic.Function.Basic
import Mathlib.Data.List.Basic
import Baseline.Proofs.MetricSet.Changes
import Baseline.Proofs.MetricSet.Identity

/-!
# Metric sets that share a store

The metric sets of an integration share its store, and a lock lets one call at a time have it.
Which set gets it next is left to chance.  As long as no key is used by two sets, nothing depends
on that.

* `SharedSets.perform`, `SharedSets.run` : one call with the store locked, and a schedule of calls.
* `MetricCall.store_perform` : **what a call writes does not depend on what the store holds.**
* `MetricCall.perform_local` : **and what it reads is the sample at its own key.**
* `SharedSets.AgreeFor` : what a set sees of the world, kept by its own turns and by all others.
* `SharedSets.run_alone` : **a set fares in a schedule as it does alone.**
* `run_interleaved` : **so every schedule that keeps the order within each set ends the same.**
-/

set_option autoImplicit false

namespace Baseline

/-! ## Calls -/

/-- A call that sets a metric, and the clock reading at which it is made. -/
structure MetricCall where
  now : Double
  name : String
  raw : Value
  declared : Value

namespace MetricCall

/-- Makes a call on a set with the store locked. -/
def perform (c : MetricCall) (m : MetricSet) (s : Store) : MetricStep Unit :=
  m.setMetric c.now (some s) c.name c.raw c.declared

/-- The key of the store that a call on a set uses, if it uses any. -/
def key? (c : MetricCall) (m : MetricSet) : Option String :=
  (m.sampled? c.name c.raw c.declared).map (·.1)

/-- The sample that a call on a set records, with its key. -/
def recorded? (c : MetricCall) (m : MetricSet) : Option (String × Sample) :=
  match m.sampled? c.name c.raw c.declared, wholeSecond c.now with
  | some (key, _, value), .ok time => some (key, ⟨value, time⟩)
  | _, _ => none

theorem key?_congr {m m' : MetricSet} (h : m'.attributes = m.attributes) (c : MetricCall) :
    c.key? m' = c.key? m := by
  unfold key? MetricSet.sampled?
  rw [MetricSet.storeKey_congr h]

theorem key?_of_recorded? {c : MetricCall} {m : MetricSet} {key : String} {e : Sample}
    (h : c.recorded? m = some (key, e)) : c.key? m = some key := by
  unfold recorded? at h
  unfold key?
  split at h
  · rename_i hsampled _
    rw [hsampled]
    cases h
    rfl
  · cases h

end MetricCall

/-- A store with one more sample. -/
def Store.withSample (s : Store) : Option (String × Sample) → Store
  | some (key, e) => ⟨s.rows.put key e⟩
  | none => s

/-- Stores that hold the same at a key do so after the same is recorded in both. -/
theorem Store.sample?_withSample_congr {s s' : Store} {key : String}
    (h : s.sample? key = s'.sample? key) (added : Option (String × Sample)) :
    (s.withSample added).sample? key = (s'.withSample added).sample? key := by
  cases added with
  | none => exact h
  | some row =>
    obtain ⟨k, e⟩ := row
    have here := s.changedAt_put k e
    have here' := s'.changedAt_put k e
    by_cases hk : key = k
    · subst hk
      exact here.here.trans here'.here.symm
    · exact ((here.elsewhere key hk).trans h).trans (here'.elsewhere key hk).symm

theorem Store.sample?_withSample_of_ne {key : String} {added : Option (String × Sample)}
    (h : ∀ e, added ≠ some (key, e)) (s : Store) :
    (s.withSample added).sample? key = s.sample? key := by
  cases added with
  | none => rfl
  | some row =>
    obtain ⟨k, e⟩ := row
    refine (s.changedAt_put k e).elsewhere key ?_
    rintro rfl
    exact h e rfl

namespace MetricCall

/-- **What a call writes does not depend on what the store holds.** -/
theorem store_perform (c : MetricCall) (m : MetricSet) (s : Store) :
    (c.perform m s).store = some (s.withSample (c.recorded? m)) := by
  unfold perform recorded?
  cases hsampled : m.sampled? c.name c.raw c.declared with
  | none =>
    rw [MetricSet.setMetric_unsampled hsampled]
    rfl
  | some found =>
    obtain ⟨key, kind, value⟩ := found
    rw [MetricSet.setMetric_sampled hsampled]
    cases wholeSecond c.now with
    | error f => rfl
    | ok time =>
      dsimp only
      split <;> rfl

/-- **A call reads no more of the store than the sample at its own key.** -/
theorem perform_local {c : MetricCall} {m : MetricSet} {s s' : Store}
    (h : ∀ key ∈ c.key? m, s.sample? key = s'.sample? key) :
    (c.perform m s).result = (c.perform m s').result ∧
      (c.perform m s).set = (c.perform m s').set := by
  unfold perform
  cases hsampled : m.sampled? c.name c.raw c.declared with
  | none =>
    rw [MetricSet.setMetric_unsampled hsampled, MetricSet.setMetric_unsampled hsampled]
    exact ⟨rfl, rfl⟩
  | some found =>
    obtain ⟨key, kind, value⟩ := found
    have hsample : s.sample? key = s'.sample? key := by
      refine h key ?_
      rw [key?, hsampled]
      rfl
    rw [MetricSet.setMetric_sampled hsampled, MetricSet.setMetric_sampled hsampled, hsample]
    cases wholeSecond c.now with
    | error f => exact ⟨rfl, rfl⟩
    | ok time =>
      dsimp only
      split <;> exact ⟨rfl, rfl⟩

theorem attributes_perform (c : MetricCall) (m : MetricSet) (s : Store) :
    (c.perform m s).set.attributes = m.attributes :=
  (MetricSet.changedBy_setMetric c.now (some s) m c.name c.raw c.declared).attributes

end MetricCall

/-! ## Schedules -/

/-- Metric sets and the store that they share. -/
structure SharedSets (ι : Type) where
  store : Store
  sets : ι → MetricSet

/-- The next call in a schedule, and the set on which it is made. -/
structure Turn (ι : Type) where
  set : ι
  call : MetricCall

/-- What a call answers: the value that its metric now has, or why it was not set. -/
abbrev Answer : Type := Except Failure (Option Value)

/-- The answers of a schedule in their order, each with its set, and what is left. -/
structure ScheduleRun (ι : Type) where
  answers : List (ι × Answer)
  left : SharedSets ι

variable {ι : Type} [DecidableEq ι]

/-- The answers of one set, in their order. -/
def ScheduleRun.answersOf (r : ScheduleRun ι) (i : ι) : List Answer :=
  (r.answers.filter (·.1 = i)).map (·.2)

/-- The calls of one set, in their order. -/
def callsOf (i : ι) (schedule : List (Turn ι)) : List MetricCall :=
  (schedule.filter (·.set = i)).map (·.call)

namespace SharedSets

/-- What a turn answers. -/
def answer (w : SharedSets ι) (t : Turn ι) : Answer :=
  let step := t.call.perform (w.sets t.set) w.store
  step.result.map fun _ => step.set.metrics.get? t.call.name

/-- What is left after a turn. -/
def perform (w : SharedSets ι) (t : Turn ι) : SharedSets ι :=
  let step := t.call.perform (w.sets t.set) w.store
  ⟨step.store.getD w.store, Function.update w.sets t.set step.set⟩

/-- Takes the turns of a schedule one after the other. -/
def run (w : SharedSets ι) : List (Turn ι) → ScheduleRun ι
  | [] => ⟨[], w⟩
  | t :: rest =>
    let more := run (w.perform t) rest
    ⟨(t.set, w.answer t) :: more.answers, more.left⟩

/-- The keys of the store that the calls of a set use. -/
def usedKeys (w : SharedSets ι) (i : ι) (calls : List MetricCall) : List String :=
  calls.filterMap fun c => c.key? (w.sets i)

variable {w v : SharedSets ι} {t : Turn ι}

theorem store_perform (w : SharedSets ι) (t : Turn ι) :
    (w.perform t).store = w.store.withSample (t.call.recorded? (w.sets t.set)) := by
  rw [perform, MetricCall.store_perform]
  rfl

theorem sets_perform_self (w : SharedSets ι) (t : Turn ι) :
    (w.perform t).sets t.set = (t.call.perform (w.sets t.set) w.store).set :=
  Function.update_self ..

theorem sets_perform_of_ne {i : ι} (h : i ≠ t.set) (w : SharedSets ι) :
    (w.perform t).sets i = w.sets i :=
  Function.update_of_ne h ..

theorem attributes_perform (w : SharedSets ι) (t : Turn ι) (i : ι) :
    ((w.perform t).sets i).attributes = (w.sets i).attributes := by
  by_cases h : i = t.set
  · rw [h, sets_perform_self]
    exact t.call.attributes_perform _ _
  · rw [sets_perform_of_ne h]

/-- A turn does not change which key a call uses. -/
theorem key?_perform (w : SharedSets ι) (t u : Turn ι) :
    u.call.key? ((w.perform t).sets u.set) = u.call.key? (w.sets u.set) :=
  MetricCall.key?_congr (w.attributes_perform t u.set) u.call

theorem sample?_perform_of_not_used {key : String} (h : t.call.key? (w.sets t.set) ≠ some key) :
    (w.perform t).store.sample? key = w.store.sample? key := by
  rw [store_perform]
  refine Store.sample?_withSample_of_ne (fun e hrecorded => ?_) w.store
  exact h (MetricCall.key?_of_recorded? hrecorded)

/-! ## One set among others -/

/-- Nothing tells two worlds apart that one set sees: itself, and the samples at some keys. -/
structure AgreeFor (i : ι) (keys : List String) (w v : SharedSets ι) : Prop where
  set : w.sets i = v.sets i
  samples : ∀ key ∈ keys, w.store.sample? key = v.store.sample? key

/-- A turn of the set itself answers the same, and leaves the same to see. -/
theorem AgreeFor.perform_own {keys : List String} (h : AgreeFor t.set keys w v)
    (hkey : ∀ key ∈ t.call.key? (w.sets t.set), key ∈ keys) :
    w.answer t = v.answer t ∧ AgreeFor t.set keys (w.perform t) (v.perform t) := by
  have hsamples : ∀ key ∈ t.call.key? (w.sets t.set),
      w.store.sample? key = v.store.sample? key := by
    intro key hmem
    exact h.samples key (hkey key hmem)
  obtain ⟨hresult, hset⟩ := MetricCall.perform_local hsamples
  rw [h.set] at hresult hset
  refine ⟨?_, ?_, fun key hmem => ?_⟩
  · simp only [answer, h.set, hresult, hset]
  · rw [sets_perform_self, sets_perform_self, h.set, hset]
  · rw [store_perform, store_perform, h.set]
    exact Store.sample?_withSample_congr (h.samples key hmem) _

/-- A turn of another set leaves what is seen. -/
theorem AgreeFor.perform_other {i : ι} {keys : List String} (h : AgreeFor i keys w v)
    (hother : i ≠ t.set) (hkey : ∀ key ∈ keys, t.call.key? (w.sets t.set) ≠ some key) :
    AgreeFor i keys (w.perform t) v where
  set := (sets_perform_of_ne hother w).trans h.set
  samples := fun key hmem =>
    (sample?_perform_of_not_used (hkey key hmem)).trans (h.samples key hmem)

/-- The keys are those of one set in a schedule: its calls use no other key, and no call of another
set uses any of them. -/
structure Owns (i : ι) (keys : List String) (w : SharedSets ι) (schedule : List (Turn ι)) :
    Prop where
  own : ∀ t ∈ schedule, t.set = i → ∀ key ∈ t.call.key? (w.sets t.set), key ∈ keys
  others : ∀ t ∈ schedule, t.set ≠ i → ∀ key ∈ t.call.key? (w.sets t.set), key ∉ keys

theorem Owns.tail {i : ι} {keys : List String} {rest : List (Turn ι)}
    (h : Owns i keys w (t :: rest)) : Owns i keys (w.perform t) rest where
  own := by
    intro u hu hset
    rw [key?_perform]
    exact h.own u (List.mem_cons_of_mem t hu) hset
  others := by
    intro u hu hset
    rw [key?_perform]
    exact h.others u (List.mem_cons_of_mem t hu) hset

end SharedSets

/-- Two runs that one set cannot tell apart, and that leave the same samples at some keys. -/
structure ScheduleRun.SameFor (i : ι) (keys : List String) (r r' : ScheduleRun ι) : Prop where
  answers : r.answersOf i = r'.answersOf i
  left : SharedSets.AgreeFor i keys r.left r'.left

namespace SharedSets

variable {w v : SharedSets ι} {t : Turn ι}

theorem answersOf_run_own (w : SharedSets ι) (t : Turn ι) (rest : List (Turn ι)) :
    (w.run (t :: rest)).answersOf t.set =
      w.answer t :: ((w.perform t).run rest).answersOf t.set := by
  simp [run, ScheduleRun.answersOf]

theorem answersOf_run_other {i : ι} (h : t.set ≠ i) (w : SharedSets ι) (rest : List (Turn ι)) :
    (w.run (t :: rest)).answersOf i = ((w.perform t).run rest).answersOf i := by
  simp [run, ScheduleRun.answersOf, h]

/-- **A set fares among others as if it made its own calls only.** -/
theorem Owns.sameFor_run {i : ι} {keys : List String} {schedule : List (Turn ι)}
    (h : Owns i keys w schedule) (hagree : AgreeFor i keys w v) :
    (w.run schedule).SameFor i keys (v.run (schedule.filter (·.set = i))) := by
  -- the set sees the same of both worlds, one of which has taken its turns only
  induction schedule generalizing w v with
  | nil => exact ⟨rfl, hagree⟩
  | cons t rest ih =>
    by_cases hset : t.set = i
    · subst hset
      have hkey := h.own t List.mem_cons_self rfl
      obtain ⟨hanswer, hagree⟩ := hagree.perform_own hkey
      have hrest := ih h.tail hagree
      rw [List.filter_cons_of_pos (by simp)]
      refine ⟨?_, hrest.left⟩
      rw [answersOf_run_own, answersOf_run_own, hanswer, hrest.answers]
    · have hkey : ∀ key ∈ keys, t.call.key? (w.sets t.set) ≠ some key := by
        intro key hmem hused
        exact h.others t List.mem_cons_self hset key hused hmem
      have hrest := ih h.tail (hagree.perform_other (Ne.symm hset) hkey)
      rw [List.filter_cons_of_neg (by simpa using hset)]
      refine ⟨?_, hrest.left⟩
      rw [answersOf_run_other hset]
      exact hrest.answers

/-- A key that no call uses keeps its sample. -/
theorem sample?_run_of_not_used {key : String} {schedule : List (Turn ι)}
    (h : ∀ t ∈ schedule, t.call.key? (w.sets t.set) ≠ some key) :
    (w.run schedule).left.store.sample? key = w.store.sample? key := by
  induction schedule generalizing w with
  | nil => rfl
  | cons t rest ih =>
    have hrest : ∀ u ∈ rest, u.call.key? ((w.perform t).sets u.set) ≠ some key := by
      intro u hu
      rw [key?_perform]
      exact h u (List.mem_cons_of_mem t hu)
    calc (w.run (t :: rest)).left.store.sample? key
        = (w.perform t).store.sample? key := ih hrest
      _ = w.store.sample? key := sample?_perform_of_not_used (h t List.mem_cons_self)

end SharedSets

/-! ## Interleavings -/

/-- A schedule in which every set makes its own calls, in their order. -/
def Interleaves (programs : ι → List MetricCall) (schedule : List (Turn ι)) : Prop :=
  ∀ i, callsOf i schedule = programs i

theorem filter_set_eq (i : ι) (schedule : List (Turn ι)) :
    schedule.filter (·.set = i) = (callsOf i schedule).map (Turn.mk i) := by
  induction schedule with
  | nil => rfl
  | cons t rest ih =>
    obtain ⟨j, c⟩ := t
    by_cases h : j = i
    · subst h
      simpa [callsOf] using ih
    · simpa [callsOf, h] using ih

/-- No key is used by the calls of two sets. -/
def SharedSets.KeysApart (w : SharedSets ι) (programs : ι → List MetricCall) : Prop :=
  ∀ i j, i ≠ j → (w.usedKeys i (programs i)).Disjoint (w.usedKeys j (programs j))

/-- Two runs that nobody can tell apart. -/
structure ScheduleRun.Same (r r' : ScheduleRun ι) : Prop where
  answers : ∀ i, r.answersOf i = r'.answersOf i
  sets : r.left.sets = r'.left.sets
  samples : ∀ key, r.left.store.sample? key = r'.left.store.sample? key

namespace SharedSets

variable {w : SharedSets ι} {programs : ι → List MetricCall} {schedule schedule' : List (Turn ι)}

theorem mem_usedKeys (hturns : Interleaves programs schedule) {t : Turn ι} (ht : t ∈ schedule)
    {key : String} (hkey : key ∈ t.call.key? (w.sets t.set)) :
    key ∈ w.usedKeys t.set (programs t.set) := by
  have hcall : t.call ∈ callsOf t.set schedule :=
    List.mem_map_of_mem (List.mem_filter.mpr ⟨ht, decide_eq_true rfl⟩)
  rw [hturns] at hcall
  exact List.mem_filterMap.mpr ⟨t.call, hcall, hkey⟩

/-- Where no two sets use one key, each owns the keys that it uses. -/
theorem KeysApart.owns (hkeys : w.KeysApart programs) (hturns : Interleaves programs schedule)
    (i : ι) : Owns i (w.usedKeys i (programs i)) w schedule where
  own := by
    rintro t ht rfl key hkey
    exact mem_usedKeys hturns ht hkey
  others := by
    intro t ht hset key hkey hmem
    exact hkeys t.set i hset (mem_usedKeys hturns ht hkey) hmem

/-- **A set fares in a schedule as it does alone.** -/
theorem run_alone (hkeys : w.KeysApart programs) (hturns : Interleaves programs schedule) (i : ι) :
    (w.run schedule).SameFor i (w.usedKeys i (programs i))
      (w.run ((programs i).map (Turn.mk i))) := by
  have hagree : AgreeFor i (w.usedKeys i (programs i)) w w := ⟨rfl, fun _ _ => rfl⟩
  have hsame := (hkeys.owns hturns i).sameFor_run hagree
  rwa [filter_set_eq, hturns i] at hsame

theorem run_unused (hturns : Interleaves programs schedule) {key : String}
    (h : ∀ i, key ∉ w.usedKeys i (programs i)) :
    (w.run schedule).left.store.sample? key = w.store.sample? key := by
  apply sample?_run_of_not_used
  intro t ht hkey
  exact h t.set (mem_usedKeys hturns ht hkey)

end SharedSets

open SharedSets in
/-- **The order in which sets get hold of the store does not matter**, as long as no key is used by
two of them: every schedule ends the same, every set fares as it does alone, and a key that no set
uses keeps its sample. -/
theorem run_interleaved {w : SharedSets ι} {programs : ι → List MetricCall}
    (hkeys : w.KeysApart programs) {schedule schedule' : List (Turn ι)}
    (hturns : Interleaves programs schedule) (hturns' : Interleaves programs schedule') :
    (w.run schedule).Same (w.run schedule') ∧
      (∀ i, (w.run schedule).SameFor i (w.usedKeys i (programs i))
        (w.run ((programs i).map (Turn.mk i)))) ∧
      ∀ key, (∀ i, key ∉ w.usedKeys i (programs i)) →
        (w.run schedule).left.store.sample? key = w.store.sample? key := by
  have halone := run_alone hkeys hturns
  have halone' := run_alone hkeys hturns'
  refine ⟨⟨?_, ?_, ?_⟩, halone, fun key => run_unused hturns⟩
  · intro i
    exact (halone i).answers.trans (halone' i).answers.symm
  · funext i
    exact (halone i).left.set.trans (halone' i).left.set.symm
  · intro key
    by_cases hused : ∃ i, key ∈ w.usedKeys i (programs i)
    · obtain ⟨i, hi⟩ := hused
      exact ((halone i).left.samples key hi).trans ((halone' i).left.samples key hi).symm
    · have hunused : ∀ i, key ∉ w.usedKeys i (programs i) := not_exists.mp hused
      exact (run_unused hturns hunused).trans (run_unused hturns' hunused).symm

/-! ### Two hosts -/

namespace TwoHosts

/-- The set of a host. -/
def host (name : String) : MetricSet :=
  ⟨"S", [⟨"host", .text name⟩], [("event_type", .text "S"), ("host", .text name)]⟩

/-- Two hosts, one of which has sampled its counter before. -/
def hosts : SharedSets Bool where
  store := ⟨[("host==db-1::net.rx", ⟨.ofWhole 5, 1000⟩)]⟩
  sets := fun later => host (if later then "db-2" else "db-1")

/-- What the counter of a host shows at a second. -/
def received (second : Nat) (raw : Value) : MetricCall :=
  ⟨.ofWhole second, "net.rx", raw, .kind .rate⟩

/-- The counter of one host falls back and goes on, the other one shows no number at first. -/
def programs : Bool → List MetricCall
  | false => [received 1010 (.int 3), received 1020 (.int 8)]
  | true => [received 1010 (.text "?"), received 1015 (.int 7)]

/-- The hosts take turns. -/
def inTurns : List (Turn Bool) := [
  ⟨false, received 1010 (.int 3)⟩,
  ⟨true, received 1010 (.text "?")⟩,
  ⟨true, received 1015 (.int 7)⟩,
  ⟨false, received 1020 (.int 8)⟩]

/-- One host after the other. -/
def inARow : List (Turn Bool) := (programs true).map (Turn.mk true) ++
  (programs false).map (Turn.mk false)

theorem usedKeys_hosts (i : Bool) : hosts.usedKeys i (programs i) =
    if i then ["host==db-2::net.rx"] else ["host==db-1::net.rx", "host==db-1::net.rx"] := by
  cases i <;> decide +kernel

theorem keysApart : hosts.KeysApart programs := by
  intro i j hne
  rw [usedKeys_hosts, usedKeys_hosts]
  cases i <;> cases j <;> simp at hne ⊢

end TwoHosts

open TwoHosts in
/-- Two hosts end the same whether they take turns or not. -/
theorem run_interleaved_twoHosts :
    hosts.KeysApart programs ∧ Interleaves programs inTurns ∧ Interleaves programs inARow ∧
      (hosts.run inTurns).Same (hosts.run inARow) := by
  have hturns : Interleaves programs inTurns := by
    intro i
    cases i <;> rfl
  have hrow : Interleaves programs inARow := by
    intro i
    cases i <;> rfl
  exact ⟨keysApart, hturns, hrow, (run_interleaved keysApart hturns hrow).1⟩

end Baseline
