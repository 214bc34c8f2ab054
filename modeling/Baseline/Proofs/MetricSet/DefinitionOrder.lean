import Baseline.Proofs.MetricSet.Interleaving

/-!
# The order of the definitions

Definitions of different names have nothing to do with each other: each writes its own metric or
its own error and the sample at its own key, and reads no other sample.  What a collection holds
when it returns is therefore the same in whatever order they are attempted, but for the order in
which it was written.

* `MetricSet.Collection.collected` : what a collection holds, read as maps.
* `MetricSet.effect?` : what an attempt adds to it, unless it ends the collection.
* `MetricSet.attempt_collected` : **an attempt adds its effect, and nothing else.**
* `MetricSet.effect?_local` : the effect depends on the attributes and on the sample at the key of
  the metric.
* `MetricSet.Holds.swap` : two attempts of different names may change places.
* `setMetricsFrom_perm` : **so all definitions may, where they have different names.**
-/

set_option autoImplicit false

namespace Baseline

/-! ## Maps -/

section Maps

variable {α : Type} {entry entry' : Option (String × α)}

/-- A map after at most one entry was written. -/
def written (entry : Option (String × α)) (map : String → Option α) : String → Option α :=
  match entry with
  | some (name, x) => Function.update map name (some x)
  | none => map

/-- Two entries that are written under different names, if both are. -/
def WrittenApart (entry entry' : Option (String × α)) : Prop :=
  ∀ name x y, entry = some (name, x) → entry' ≠ some (name, y)

theorem written_comm (h : WrittenApart entry entry') (map : String → Option α) :
    written entry' (written entry map) = written entry (written entry' map) := by
  rcases entry with _ | ⟨name, x⟩ <;> rcases entry' with _ | ⟨name', y⟩
  · rfl
  · rfl
  · rfl
  · have hname : name ≠ name' := by
      rintro rfl
      exact h name x y rfl rfl
    exact Function.update_comm hname _ _ _

theorem written_of_ne {name : String} (h : ∀ x, entry ≠ some (name, x))
    (map : String → Option α) : written entry map name = map name := by
  rcases entry with _ | ⟨other, x⟩
  · rfl
  · refine Function.update_of_ne ?_ _ _
    rintro rfl
    exact h x rfl

theorem Table.get?_put (t : Table α) (name : String) (x : α) :
    (fun other => (t.put name x).get? other) =
      written (some (name, x)) fun other => t.get? other := by
  funext other
  rw [written]
  by_cases h : other = name
  · rw [h, Table.get?_put_self, Function.update_self]
  · rw [Table.get?_put_of_ne h, Function.update_of_ne h]

theorem Store.sample?_withSample (s : Store) (added : Option (String × Sample)) :
    (s.withSample added).sample? = written added s.sample? := by
  cases added with
  | none => rfl
  | some row => exact s.rows.get?_put row.1 row.2

end Maps

/-- The call that attempts a definition. -/
def MetricDefinition.call (now : Double) (values : Table Value) (d : MetricDefinition) :
    MetricCall :=
  ⟨now, d.name, MetricSet.rawValue values d, d.kind⟩

namespace MetricSet

/-! ## What a collection holds -/

/-- What a collection holds, whatever the order in which it was written. -/
structure Collected where
  errors : String → Option CollectorError
  eventType : String
  attributes : List Attribute
  metrics : String → Option Value
  samples : Option (String → Option Sample)

/-- What a collection holds. -/
def Collection.collected (c : Collection) : Collected where
  errors := fun name => c.errors.get? name
  eventType := c.set.eventType
  attributes := c.set.attributes
  metrics := fun name => c.set.metrics.get? name
  samples := c.store.map Store.sample?

/-- What an attempt adds to a collection: an error or a metric, and a sample, each with the name
under which it is written. -/
structure Effect where
  error : Option (String × CollectorError)
  metric : Option (String × Value)
  sample : Option (String × Sample)

/-- A collection with the effect of one more attempt. -/
def Collected.add (v : Collected) (e : Effect) : Collected :=
  { v with
    errors := written e.error v.errors
    metrics := written e.metric v.metrics
    samples := v.samples.map (written e.sample) }

/-- Effects that are written under different names may change places. -/
theorem Collected.add_comm {e f : Effect} (herror : WrittenApart e.error f.error)
    (hmetric : WrittenApart e.metric f.metric) (hsample : WrittenApart e.sample f.sample) (v : Collected) :
    (v.add e).add f = (v.add f).add e := by
  have hsamples : (v.samples.map (written e.sample)).map (written f.sample) =
      (v.samples.map (written f.sample)).map (written e.sample) := by
    simp only [Option.map_map, Function.comp_def, written_comm hsample]
  simp only [Collected.add, written_comm herror, written_comm hmetric, hsamples]

/-! ## One attempt -/

/-- The effect of a metric with an outcome. -/
def Effect.ofOutcome (name : String) (sample : Option (String × Sample)) :
    Except CollectorError Value → Effect
  | .ok value => ⟨none, some (name, value), sample⟩
  | .error e => ⟨some (name, e), none, sample⟩

/-- What the attempt of a definition adds to a collection, unless it ends the collection. -/
def effect? (now : Double) (values : Table Value) (c : Collection) (d : MetricDefinition) :
    Option Effect :=
  match rawValue values d with
  | .null => some ⟨none, none, none⟩
  | raw => (outcome? now c.store c.set d.name raw d.kind).map
      (Effect.ofOutcome d.name ((d.call now values).recorded? c.set))

section Attempts

variable {now : Double} {values : Table Value} {c c' : Collection} {d : MetricDefinition}

theorem effect?_null (h : rawValue values d = .null) :
    effect? now values c d = some ⟨none, none, none⟩ := by
  unfold effect?
  rw [h]

theorem effect?_given (h : rawValue values d ≠ .null) :
    effect? now values c d =
      (outcome? now c.store c.set d.name (rawValue values d) d.kind).map
        (Effect.ofOutcome d.name ((d.call now values).recorded? c.set)) := by
  unfold effect?
  cases hraw : rawValue values d <;> first | rfl | exact absurd hraw h

/-- What a definition that is attempted leaves in the store. -/
theorem setMetric_samples (now : Double) (store : Option Store) (m : MetricSet)
    (values : Table Value) (d : MetricDefinition) :
    (m.setMetric now store d.name (rawValue values d) d.kind).store =
      store.map (·.withSample ((d.call now values).recorded? m)) := by
  cases store with
  | none => exact setMetric_storeless now m d.name (rawValue values d) d.kind
  | some s => exact (d.call now values).store_perform m s

/-- A collection goes on, and holds this. -/
structure Holds (c : Collection) (v : Collected) : Prop where
  going : c.fault = none
  collected : c.collected = v

theorem Collected.add_nothing (v : Collected) : v.add ⟨none, none, none⟩ = v := by
  have hsamples : v.samples.map (written none) = v.samples := Option.map_id' ..
  rw [Collected.add, hsamples]
  rfl

/-- **An attempt adds its effect, and nothing else**, or it ends the collection. -/
theorem attempt_collected (now : Double) (values : Table Value) (d : MetricDefinition)
    (hfault : c.fault = none) :
    match effect? now values c d with
    | some e => Holds (attempt now values c d) (c.collected.add e)
    | none => (attempt now values c d).fault.isSome = true := by
  by_cases h : rawValue values d = .null
  · rw [effect?_null h, attempt_null h]
    exact ⟨hfault, c.collected.add_nothing.symm⟩
  obtain ⟨hstore, hdone⟩ := attempt_outcome now hfault h
  rw [setMetric_samples] at hstore
  have hsamples : (attempt now values c d).store.map Store.sample? =
      (c.store.map Store.sample?).map (written ((d.call now values).recorded? c.set)) := by
    rw [hstore, Option.map_map, Option.map_map]
    exact congrArg (c.store.map ·) (funext fun s => s.sample?_withSample _)
  rw [effect?_given h]
  cases houtcome : outcome? now c.store c.set d.name (rawValue values d) d.kind with
  | none =>
    rw [houtcome] at hdone
    exact hdone
  | some r =>
    rw [houtcome] at hdone
    cases r with
    | ok value =>
      obtain ⟨hgoing, herrors, hset⟩ := hdone
      refine ⟨hgoing, ?_⟩
      rw [Collection.collected, herrors, hset, hsamples, Table.get?_put]
      rfl
    | error e =>
      obtain ⟨hgoing, herrors, hset⟩ := hdone
      refine ⟨hgoing, ?_⟩
      rw [Collection.collected, herrors, hset, hsamples, Table.get?_put]
      rfl

theorem Holds.after_attempt {v : Collected} {e : Effect} (h : Holds c v)
    (heffect : effect? now values c d = some e) : Holds (attempt now values c d) (v.add e) := by
  have hdone := attempt_collected now values d h.going
  rwa [heffect, h.collected] at hdone

/-- What was added to a collection that still goes on. -/
theorem Holds.of_attempt {v w : Collected} (h : Holds c v)
    (hafter : Holds (attempt now values c d) w) :
    ∃ e, effect? now values c d = some e ∧ w = v.add e := by
  cases heffect : effect? now values c d with
  | none =>
    have hdone := attempt_collected now values d h.going
    rw [heffect, hafter.going] at hdone
    cases hdone
  | some e => exact ⟨e, rfl, hafter.collected.symm.trans (h.after_attempt heffect).collected⟩

/-- Two collections look alike to a definition: they have the same attributes, and in both of them
the same sample stands at the key of the metric. -/
structure AlikeFor (name : String) (c c' : Collection) : Prop where
  attributes : c'.set.attributes = c.set.attributes
  stored : c'.store.isSome = c.store.isSome
  sample : ∀ key, c.set.storeKey name = .ok key →
    c'.store.bind (·.sample? key) = c.store.bind (·.sample? key)

/-- What is computed depends on no sample but that at the key. -/
theorem computeValue_local {store store' : Option Store} {key : String}
    (hstored : store'.isSome = store.isSome)
    (hsample : store'.bind (·.sample? key) = store.bind (·.sample? key)) (now : Double)
    (raw declared : Value) :
    (computeValue now store' key raw declared).1 = (computeValue now store key raw declared).1 := by
  cases store with
  | none =>
    rw [Option.isSome_none, Option.isSome_eq_false_iff, Option.isNone_iff_eq_none] at hstored
    rw [hstored]
  | some s =>
    obtain ⟨s', rfl⟩ := Option.isSome_iff_exists.mp hstored
    rw [Option.bind_some, Option.bind_some] at hsample
    cases hcounted : (⟨key, raw, declared⟩ : Reading).counted? with
    | none => rw [Reading.computeValue_not_counted hcounted, Reading.computeValue_not_counted hcounted]
    | some counted =>
      obtain ⟨kind, value⟩ := counted
      obtain ⟨hkind, hvalue, hsampled⟩ := Reading.counted?_eq_some.mp hcounted
      rw [computeValue_sampled hkind hsampled, computeValue_sampled hkind hsampled, hvalue]
      simp only [sampleCounter, Store.record]
      cases wholeSecond now with
      | error f => rfl
      | ok time =>
        dsimp only
        rw [hsample]
        cases s.sample? key <;> rfl

/-- **What an attempt adds depends on no more than its definition sees.** -/
theorem effect?_local (h : AlikeFor d.name c c') :
    effect? now values c' d = effect? now values c d := by
  by_cases hnull : rawValue values d = .null
  · rw [effect?_null hnull, effect?_null hnull]
  have htaken : c'.set.taken d.name d.kind = c.set.taken d.name d.kind := by
    unfold taken
    rw [h.attributes]
  have hrecorded : (d.call now values).recorded? c'.set = (d.call now values).recorded? c.set := by
    unfold MetricCall.recorded? sampled?
    rw [storeKey_congr h.attributes]
  have houtcome : outcome? now c'.store c'.set d.name (rawValue values d) d.kind =
      outcome? now c.store c.set d.name (rawValue values d) d.kind := by
    rw [outcome?, outcome?, htaken, storeKey_congr h.attributes]
    cases hkey : c.set.storeKey d.name with
    | error f => rfl
    | ok key =>
      dsimp only
      rw [computeValue_local h.stored (h.sample key hkey)]
  rw [effect?_given hnull, effect?_given hnull, houtcome, hrecorded]

/-- An effect is written under the name of its definition, and under the store key of that name. -/
structure Effect.Under (m : MetricSet) (name : String) (e : Effect) : Prop where
  error : ∀ other x, e.error = some (other, x) → other = name
  metric : ∀ other x, e.metric = some (other, x) → other = name
  sample : ∀ key x, e.sample = some (key, x) → m.storeKey name = .ok key

theorem under_of_effect? {e : Effect} (h : effect? now values c d = some e) :
    e.Under c.set d.name := by
  by_cases hnull : rawValue values d = .null
  · rw [effect?_null hnull] at h
    cases h
    exact ⟨nofun, nofun, nofun⟩
  rw [effect?_given hnull] at h
  obtain ⟨r, -, hr⟩ := Option.map_eq_some_iff.mp h
  have hsample : ∀ key x, (d.call now values).recorded? c.set = some (key, x) →
      c.set.storeKey d.name = .ok key := by
    intro key x hrecorded
    have hkey := MetricCall.key?_of_recorded? hrecorded
    obtain ⟨⟨key', found⟩, hsampled, heq⟩ := Option.map_eq_some_iff.mp hkey
    cases heq
    exact (sampled?_eq_some.mp hsampled).1
  cases r with
  | ok value =>
    cases hr
    refine ⟨nofun, ?_, hsample⟩
    rintro other x ⟨⟩
    rfl
  | error e =>
    cases hr
    refine ⟨?_, nofun, hsample⟩
    rintro other x ⟨⟩
    rfl

/-- Effects under different names are written apart from each other. -/
theorem Effect.Under.add_comm {m : MetricSet} {name name' : String} {e f : Effect}
    (he : e.Under m name) (hf : f.Under m name') (hname : name ≠ name') (v : Collected) :
    (v.add e).add f = (v.add f).add e := by
  refine Collected.add_comm ?_ ?_ ?_ v
  · intro other x y hx hy
    exact hname ((he.error other x hx).symm.trans (hf.error other y hy))
  · intro other x y hx hy
    exact hname ((he.metric other x hx).symm.trans (hf.metric other y hy))
  · intro key x y hx hy
    exact hname (eq_of_storeKey (he.sample key x hx) (hf.sample key y hy))

/-- A collection with one more effect looks as before to a definition whose sample it has not
recorded. -/
theorem AlikeFor.of_add {name : String} {e : Effect} (h : c'.collected = c.collected.add e)
    (hsample : ∀ key x, c.set.storeKey name = .ok key → e.sample ≠ some (key, x)) :
    AlikeFor name c c' := by
  have hsamples : c'.store.map Store.sample? =
      (c.store.map Store.sample?).map (written e.sample) := congrArg Collected.samples h
  refine ⟨congrArg Collected.attributes h, ?_, fun key hkey => ?_⟩
  · simpa using congrArg Option.isSome hsamples
  · have hread := congrArg (Option.bind · (· key)) hsamples
    simp only [Option.bind_map, Option.map_map, Function.comp_def] at hread
    rw [show (c'.store.bind (·.sample? key)) = _ from hread]
    cases c.store with
    | none => rfl
    | some s => exact written_of_ne (hsample key · hkey) _

theorem AlikeFor.of_collected (h : c'.collected = c.collected) (name : String) :
    AlikeFor name c c' :=
  .of_add (e := ⟨none, none, none⟩) (h.trans c.collected.add_nothing.symm) fun _ _ _ => nofun

/-- A definition sees nothing of what is attempted under another name. -/
theorem AlikeFor.after_attempt {v : Collected} {e : Effect} {name : String} (h : Holds c v)
    (heffect : effect? now values c d = some e) (hname : d.name ≠ name) :
    AlikeFor name c (attempt now values c d) := by
  refine .of_add (e := e) ?_ fun key x hkey hsample => ?_
  · rw [(h.after_attempt heffect).collected, h.collected]
  · exact hname (eq_of_storeKey ((under_of_effect? heffect).sample key x hsample) hkey)

/-- **Two attempts of different names may change places.** -/
theorem Holds.swap {v w : Collected} {x y : MetricDefinition} (hname : x.name ≠ y.name)
    (h : Holds c v) (h' : Holds c' v)
    (hw : Holds (attempt now values (attempt now values c x) y) w) :
    Holds (attempt now values (attempt now values c' y) x) w := by
  obtain ⟨e, hx, -⟩ := h.of_attempt ⟨fault_of_fault_attempt hw.going, rfl⟩
  obtain ⟨f, hy, rfl⟩ := (h.after_attempt hx).of_attempt hw
  have hsame : c'.collected = c.collected := h'.collected.trans h.collected.symm
  have hy' : effect? now values c y = some f :=
    (effect?_local (.after_attempt h hx hname)).symm.trans hy
  have hfirst : effect? now values c' y = some f :=
    (effect?_local (.of_collected hsame _)).trans hy'
  have hsecond : effect? now values (attempt now values c' y) x = some e :=
    calc effect? now values (attempt now values c' y) x
        = effect? now values c' x := effect?_local (.after_attempt h' hfirst hname.symm)
      _ = effect? now values c x := effect?_local (.of_collected hsame _)
      _ = some e := hx
  rw [(under_of_effect? hx).add_comm (under_of_effect? hy') hname]
  exact (h'.after_attempt hfirst).after_attempt hsecond

/-! ## All attempts -/

theorem fault_of_fault_foldl {ds : List MetricDefinition}
    (h : (ds.foldl (attempt now values) c).fault = none) : c.fault = none := by
  induction ds generalizing c with
  | nil => exact h
  | cons d rest ih => exact fault_of_fault_attempt (ih h)

/-- The same attempts on collections that hold the same end with the same. -/
theorem Holds.foldl {ds : List MetricDefinition} {v w : Collected} (h : Holds c v)
    (h' : Holds c' v) (hw : Holds (ds.foldl (attempt now values) c) w) :
    Holds (ds.foldl (attempt now values) c') w := by
  induction ds generalizing c c' v with
  | nil =>
    have hsame : v = w := h.collected.symm.trans hw.collected
    exact hsame ▸ h'
  | cons d rest ih =>
    have hfirst : Holds (attempt now values c d) _ := ⟨fault_of_fault_foldl hw.going, rfl⟩
    obtain ⟨e, heffect, -⟩ := h.of_attempt hfirst
    have heffect' : effect? now values c' d = some e :=
      (effect?_local (.of_collected (h'.collected.trans h.collected.symm) _)).trans heffect
    exact ih (h.after_attempt heffect) (h'.after_attempt heffect') hw

/-- **What a collection holds in the end does not depend on the order of the attempts.** -/
theorem Holds.foldl_perm {ds ds' : List MetricDefinition} (hperm : ds.Perm ds')
    (hnames : (ds.map (·.name)).Nodup) {v w : Collected} (h : Holds c v) (h' : Holds c' v)
    (hw : Holds (ds.foldl (attempt now values) c) w) :
    Holds (ds'.foldl (attempt now values) c') w := by
  induction hperm generalizing c c' v with
  | nil => exact Holds.foldl h h' hw
  | cons d hrest ih =>
    have hfirst : Holds (attempt now values c d) _ := ⟨fault_of_fault_foldl hw.going, rfl⟩
    have hfirst' : Holds (attempt now values c' d) _ := @Holds.foldl now values c c' [d] _ _ h h' hfirst
    exact ih (List.nodup_cons.mp hnames).2 hfirst hfirst' hw
  | swap x y rest =>
    have hname : y.name ≠ x.name := fun heq =>
      (List.nodup_cons.mp hnames).1 (List.mem_cons.mpr (Or.inl heq))
    have hboth : Holds (attempt now values (attempt now values c y) x) _ :=
      ⟨fault_of_fault_foldl hw.going, rfl⟩
    rw [List.foldl_cons, List.foldl_cons] at hw ⊢
    exact Holds.foldl hboth (Holds.swap hname h h' hboth) hw
  | trans hfirst _ ih ih' =>
    exact ih' ((hfirst.map _).nodup_iff.mp hnames) h' h' (ih hnames h h' hw)

end Attempts

end MetricSet

open MetricSet

/-- **The order of definitions with different names does not matter.**  When a collection returns,
it also does so with the definitions in any other order, and then it holds the same errors, the
same metrics and the same samples. -/
theorem setMetricsFrom_perm {ds ds' : List MetricDefinition} (hperm : ds.Perm ds')
    (hnames : (ds.map (·.name)).Nodup) (now : Double) (store : Option Store) (m : MetricSet)
    (raw : Value) (hreturns : (m.setMetricsFrom now store raw ds).fault = none) :
    (m.setMetricsFrom now store raw ds').fault = none ∧
      (m.setMetricsFrom now store raw ds').collected =
        (m.setMetricsFrom now store raw ds).collected := by
  have hfrom : ∀ values, (m.setMetrics now store values ds).fault = none →
      Holds (m.setMetrics now store values ds') (m.setMetrics now store values ds).collected := by
    intro values hfault
    have hstart : Holds ⟨[], none, m, store, []⟩ _ := ⟨rfl, rfl⟩
    exact Holds.foldl_perm hperm hnames hstart hstart ⟨hfault, rfl⟩
  cases raw with
  | map es => exact ⟨(hfrom (byName es) hreturns).going, (hfrom (byName es) hreturns).collected⟩
  | _ =>
    -- nothing can be looked up, so there is no definition
    cases ds with
    | cons d rest => cases hreturns
    | nil =>
      rw [List.nil_perm.mp hperm]
      exact ⟨rfl, rfl⟩

/-! ### Five metrics of a host -/

namespace FiveMetrics

/-- What was observed of a host. -/
def observed : Value := .ofFields [
  ("net.rx", .int 3), ("net.tx", .int 9), ("host", .text "db-2"), ("role", .null)]

/-- A counter that has fallen back, one that was never seen, an attribute that is taken, one that
is skipped, and a gauge that was not observed. -/
def definitions : List MetricDefinition := [
  ⟨"net.rx", .kind .rate, .null⟩, ⟨"net.tx", .kind .rate, .null⟩, ⟨"host", .kind .attr, .null⟩,
  ⟨"role", .kind .attr, .text "none"⟩, ⟨"load", .kind .gauge, .int 0⟩]

theorem returns : (FellBack.set.setMetricsFrom (.ofWhole 1010) (some FellBack.store) observed
    definitions).fault = none := by
  rw [← Option.isNone_iff_eq_none]
  decide +kernel

end FiveMetrics

open FiveMetrics in
theorem setMetricsFrom_perm_fiveMetrics :
    definitions.Perm definitions.reverse ∧ (definitions.map (·.name)).Nodup ∧
      (FellBack.set.setMetricsFrom (.ofWhole 1010) (some FellBack.store) observed
        definitions).fault = none ∧
      (FellBack.set.setMetricsFrom (.ofWhole 1010) (some FellBack.store) observed
        definitions.reverse).fault = none ∧
      (FellBack.set.setMetricsFrom (.ofWhole 1010) (some FellBack.store) observed
          definitions.reverse).collected =
        (FellBack.set.setMetricsFrom (.ofWhole 1010) (some FellBack.store) observed
          definitions).collected :=
  ⟨(List.reverse_perm _).symm, by decide, returns,
    setMetricsFrom_perm (List.reverse_perm _).symm (by decide) _ _ _ _ returns⟩

end Baseline
