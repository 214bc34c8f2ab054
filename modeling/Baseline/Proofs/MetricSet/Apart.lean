import Baseline.Proofs.MetricSet.DefinitionOrder

/-!
# Definitions that do not disturb each other

A collection attempts its definitions one after the other, and goes on when one of them is refused.
Where they have different names, none of them sees that others were attempted: what the collection
holds of a metric in the end is what attempting its definition alone would have given.

* `MetricSet.Share` : what a collection holds of one metric.
* `MetricSet.share_attempt_of_ne` : an attempt under another name leaves it alone.
* `MetricSet.fault_foldl` : definitions that would go on alone go on together.
* `MetricSet.share_foldl` : **and of each of them the collection holds in the end what it would hold
  if this one had been attempted alone.**
-/

set_option autoImplicit false

namespace Baseline.MetricSet

/-- What a collection holds of one metric: its error, its value, and the sample at its key in the
store, if there is a store and a sample. -/
structure Share where
  error : Option CollectorError
  metric : Option Value
  sample : Option (Option Sample)

/-- What a collection holds of the metric with a name and a store key. -/
def Collected.share (v : Collected) (name key : String) : Share :=
  ⟨v.errors name, v.metrics name, v.samples.map fun sample => sample key⟩

theorem Collection.share_collected (c : Collection) (name key : String) :
    c.collected.share name key =
      ⟨c.errors.get? name, c.set.metrics.get? name, c.store.map (·.sample? key)⟩ := by
  rw [collected, Collected.share, Option.map_map]
  rfl

section Apart

variable {now : Double} {values : Table Value} {c : Collection} {d : MetricDefinition}
  {ds : List MetricDefinition} {name key : String}

/-! ## One attempt -/

/-- What is written at a name depends on nothing that stood at others. -/
theorem written_congr {α : Type} {map map' : String → Option α} (h : map name = map' name)
    (entry : Option (String × α)) : written entry map name = written entry map' name := by
  rcases entry with _ | ⟨other, x⟩
  · exact h
  · by_cases hother : name = other
    · subst hother
      rw [written, written, Function.update_self, Function.update_self]
    · rw [written, written, Function.update_of_ne hother, Function.update_of_ne hother, h]

/-- The share of a metric with one more effect. -/
theorem Collected.share_add (v : Collected) (e : Effect) (name key : String) :
    (v.add e).share name key = ⟨written e.error v.errors name, written e.metric v.metrics name,
      v.samples.map fun sample => written e.sample sample key⟩ := by
  rw [share, add, Option.map_map]
  rfl

/-- An effect makes the same of the same share. -/
theorem Collected.share_add_congr {v w : Collected} (h : v.share name key = w.share name key)
    (e : Effect) : (v.add e).share name key = (w.add e).share name key := by
  obtain ⟨herror, hmetric, hsample⟩ := Share.mk.inj h
  have hsamples : (v.samples.map fun sample => written e.sample sample key) =
      w.samples.map fun sample => written e.sample sample key := by
    cases hv : v.samples with
    | none =>
      rw [hv] at hsample
      rw [Option.map_eq_none_iff.mp hsample.symm]
    | some stored =>
      rw [hv] at hsample
      obtain ⟨stored', hw, hstored⟩ := Option.map_eq_some_iff.mp hsample.symm
      rw [hw, Option.map_some, Option.map_some, written_congr hstored]
  rw [share_add, share_add, written_congr herror, written_congr hmetric, hsamples]

/-- An effect under another name leaves a share alone. -/
theorem Effect.Under.share_add {m : MetricSet} {other : String} {e : Effect}
    (h : e.Under m other) (hname : other ≠ name) (hkey : m.storeKey name = .ok key)
    (v : Collected) : (v.add e).share name key = v.share name key := by
  have herror : written e.error v.errors name = v.errors name :=
    written_of_ne (fun x hx => hname (h.error name x hx).symm) _
  have hmetric : written e.metric v.metrics name = v.metrics name :=
    written_of_ne (fun x hx => hname (h.metric name x hx).symm) _
  have hsample : ∀ stored : String → Option Sample, written e.sample stored key = stored key := by
    intro stored
    apply written_of_ne
    intro x hx
    exact hname (eq_of_storeKey (h.sample key x hx) hkey)
  rw [Collected.share_add, herror, hmetric]
  simp only [hsample]
  rfl

/-- An attempt that does not end a collection has an effect. -/
theorem exists_effect (hfault : c.fault = none) (hgoes : (attempt now values c d).fault = none) :
    ∃ e, effect? now values c d = some e := by
  have hholds : Holds c c.collected := ⟨hfault, rfl⟩
  have hafter : Holds (attempt now values c d) _ := ⟨hgoes, rfl⟩
  obtain ⟨e, he, -⟩ := hholds.of_attempt hafter
  exact ⟨e, he⟩

theorem collected_attempt {e : Effect} (hfault : c.fault = none)
    (he : effect? now values c d = some e) :
    (attempt now values c d).collected = c.collected.add e :=
  (Holds.after_attempt ⟨hfault, rfl⟩ he).collected

/-- **An attempt under another name leaves a share alone.** -/
theorem share_attempt_of_ne (hgoes : (attempt now values c d).fault = none)
    (hname : d.name ≠ name) (hkey : c.set.storeKey name = .ok key) :
    (attempt now values c d).collected.share name key = c.collected.share name key := by
  have hfault := fault_of_fault_attempt hgoes
  obtain ⟨e, he⟩ := exists_effect hfault hgoes
  rw [collected_attempt hfault he]
  exact (under_of_effect? he).share_add hname hkey _

/-- After an attempt a definition of another name has the effect that it had before. -/
theorem effect?_attempt_of_ne {other : MetricDefinition}
    (hgoes : (attempt now values c d).fault = none) (hname : d.name ≠ other.name) :
    effect? now values (attempt now values c d) other = effect? now values c other := by
  have hfault := fault_of_fault_attempt hgoes
  obtain ⟨e, he⟩ := exists_effect hfault hgoes
  exact effect?_local (.after_attempt ⟨hfault, rfl⟩ he hname)

/-- So after an attempt a definition of another name goes on as it would have before, -/
theorem fault_attempt_attempt {other : MetricDefinition}
    (hgoes : (attempt now values c d).fault = none)
    (hother : (attempt now values c other).fault = none) (hname : d.name ≠ other.name) :
    (attempt now values (attempt now values c d) other).fault = none := by
  obtain ⟨e, he⟩ := exists_effect (fault_of_fault_attempt hgoes) hother
  rw [← effect?_attempt_of_ne hgoes hname] at he
  exact (Holds.after_attempt ⟨hgoes, rfl⟩ he).going

/-- and has the share that it would have had. -/
theorem share_attempt_attempt {other : MetricDefinition}
    (hgoes : (attempt now values c d).fault = none)
    (hother : (attempt now values c other).fault = none) (hname : d.name ≠ other.name)
    (hkey : c.set.storeKey other.name = .ok key) :
    (attempt now values (attempt now values c d) other).collected.share other.name key =
      (attempt now values c other).collected.share other.name key := by
  have hfault := fault_of_fault_attempt hgoes
  obtain ⟨e, he⟩ := exists_effect hfault hother
  have he' : effect? now values (attempt now values c d) other = some e :=
    (effect?_attempt_of_ne hgoes hname).trans he
  rw [collected_attempt hgoes he', collected_attempt hfault he]
  exact Collected.share_add_congr (share_attempt_of_ne hgoes hname hkey) e

theorem storeKey_attempt (now : Double) (values : Table Value) (c : Collection)
    (d : MetricDefinition) (name : String) :
    (attempt now values c d).set.storeKey name = c.set.storeKey name :=
  storeKey_congr (changedBy_attempt now values c d).attributes name

/-! ## All attempts -/

/-- Definitions of different names each of which would go on alone. -/
structure GoApart (now : Double) (values : Table Value) (c : Collection)
    (ds : List MetricDefinition) : Prop where
  names : (ds.map (·.name)).Nodup
  goes : ∀ d ∈ ds, (attempt now values c d).fault = none

theorem ne_of_mem_of_notMem (hname : name ∉ ds.map (·.name)) (hd : d ∈ ds) : name ≠ d.name := by
  rintro rfl
  exact hname (List.mem_map_of_mem hd)

/-- What one of them leaves to the others. -/
theorem GoApart.tail (h : GoApart now values c (d :: ds)) :
    GoApart now values (attempt now values c d) ds := by
  have hnames := List.nodup_cons.mp h.names
  refine ⟨hnames.2, fun other hother => ?_⟩
  have hname : d.name ≠ other.name := ne_of_mem_of_notMem hnames.1 hother
  exact fault_attempt_attempt (h.goes d List.mem_cons_self)
    (h.goes other (List.mem_cons_of_mem d hother)) hname

/-- **Definitions that would go on alone go on together.** -/
theorem fault_foldl (h : GoApart now values c ds) (hfault : c.fault = none) :
    (ds.foldl (attempt now values) c).fault = none := by
  induction ds generalizing c with
  | nil => exact hfault
  | cons d rest ih => exact ih h.tail (h.goes d List.mem_cons_self)

/-- The share of a metric that none of them defines stays. -/
theorem share_foldl_of_notMem (h : GoApart now values c ds) (hname : name ∉ ds.map (·.name))
    (hkey : c.set.storeKey name = .ok key) :
    (ds.foldl (attempt now values) c).collected.share name key = c.collected.share name key := by
  induction ds generalizing c with
  | nil => rfl
  | cons d rest ih =>
    rw [List.map_cons, List.mem_cons, not_or] at hname
    rw [List.foldl_cons, ih h.tail hname.2 ((storeKey_attempt now values c d name).trans hkey)]
    exact share_attempt_of_ne (h.goes d List.mem_cons_self) (Ne.symm hname.1) hkey

/-- **Of each of them the collection holds in the end what it would hold if this one had been
attempted alone.** -/
theorem share_foldl (h : GoApart now values c ds) (hd : d ∈ ds)
    (hkey : c.set.storeKey d.name = .ok key) :
    (ds.foldl (attempt now values) c).collected.share d.name key =
      (attempt now values c d).collected.share d.name key := by
  induction ds generalizing c with
  | nil => cases hd
  | cons first rest ih =>
    have hnames := List.nodup_cons.mp h.names
    have hkey' := (storeKey_attempt now values c first d.name).trans hkey
    rw [List.foldl_cons]
    rcases List.mem_cons.mp hd with rfl | hd
    · exact share_foldl_of_notMem h.tail hnames.1 hkey'
    · have hname : first.name ≠ d.name := ne_of_mem_of_notMem hnames.1 hd
      rw [ih h.tail hd hkey']
      exact share_attempt_attempt (h.goes first List.mem_cons_self)
        (h.goes d (List.mem_cons_of_mem first hd)) hname hkey

end Apart

end Baseline.MetricSet
