import Baseline.Proofs.MetricSet.Identity
import Baseline.Proofs.Steps
import Baseline.Proofs.Sampling.Faults

/-!
# What setting one metric does

* `MetricSet.storeKey_eq_error_iff`, `MetricSet.eq_of_storeKey` : a set has a store key for every
  metric, unless an attribute has no text, and different ones for different metrics.
* `MetricSet.outcome?` : the value of a metric, or the error that is reported for it.
* `MetricSet.setMetric_outcome`, `MetricSet.setMetric_store` : **what setting a metric does to the
  set and to the store, by its outcome.**
* `MetricSet.attempt_outcome` : **what attempting it in a collection does.**
* `MetricSet.Settled` : a metric is among the metrics, or its error among the errors.
-/

set_option autoImplicit false

namespace Baseline.MetricSet

/-! ## Store keys -/

theorem storeKey_eq (m : MetricSet) (name : String) :
    m.storeKey name = (m.attributes.mapM Attribute.namespaced).map fun parts =>
      String.intercalate namespaceSeparator (parts ++ [name]) := by
  unfold storeKey
  cases m.attributes.mapM Attribute.namespaced <;> rfl

/-- The metrics of a set have different store keys. -/
theorem eq_of_storeKey {m : MetricSet} {name name' key : String} (h : m.storeKey name = .ok key)
    (h' : m.storeKey name' = .ok key) : name = name' := by
  rw [storeKey_eq] at h h'
  cases hparts : m.attributes.mapM Attribute.namespaced with
  | error f =>
    rw [hparts] at h
    cases h
  | ok parts =>
    rw [hparts] at h h'
    have hsame : String.intercalate namespaceSeparator (parts ++ [name]) =
        String.intercalate namespaceSeparator (parts ++ [name']) := by
      cases h
      exact (Except.ok.inj h').symm
    cases parts with
    | nil => simpa using hsame
    | cons part rest =>
      rw [String.intercalate_append_of_ne_nil (by simp) (by simp),
        String.intercalate_append_of_ne_nil (by simp) (by simp), String.append_right_inj] at hsame
      simpa using hsame

/-- A metric has no store key when an attribute of its set has no text. -/
theorem storeKey_eq_error_iff {m : MetricSet} {name : String} :
    (∃ f, m.storeKey name = .error f) ↔ ∃ a ∈ m.attributes, ∃ f, a.value.plain = .error f := by
  have hnamespaced : ∀ a : Attribute,
      (∃ f, a.namespaced = .error f) ↔ ∃ f, a.value.plain = .error f := by
    intro a
    unfold Attribute.namespaced
    cases a.value.plain <;> simp [bind, Except.bind, pure, Except.pure]
  have hparts : (∃ f, m.storeKey name = .error f) ↔
      ∃ f, m.attributes.mapM Attribute.namespaced = .error f := by
    rw [storeKey_eq]
    cases m.attributes.mapM Attribute.namespaced <;> simp [Except.map]
  simp only [hparts, mapM_eq_error_iff, hnamespaced]

/-! ## One metric -/

/-- Whether a metric would overwrite an attribute of its set. -/
def taken (m : MetricSet) (name : String) (declared : Value) : Bool :=
  declaresAttribute declared && m.attributes.any (·.key = name)

/-- The outcome of a metric, unless it ends in a fault: its value, or the error that is
reported. -/
def outcome? (now : Double) (store : Option Store) (m : MetricSet) (name : String)
    (raw declared : Value) : Option (Except CollectorError Value) :=
  if m.taken name declared then some (.error (.attributeTaken name))
  else
    match m.storeKey name with
    | .error _ => none
    | .ok key => settled? (computeValue now store key raw declared).1

/-- **What setting a metric does**, by its outcome. -/
theorem setMetric_outcome (now : Double) (store : Option Store) (m : MetricSet) (name : String)
    (raw declared : Value) :
    match outcome? now store m name raw declared with
    | some (.ok value) =>
      (m.setMetric now store name raw declared).result = .ok () ∧
        (m.setMetric now store name raw declared).set =
          { m with metrics := m.metrics.put name value }
    | some (.error e) =>
      (m.setMetric now store name raw declared).result = .error (.reported e) ∧
        (m.setMetric now store name raw declared).set = m
    | none =>
      settled? (m.setMetric now store name raw declared).result = none ∧
        (m.setMetric now store name raw declared).set = m := by
  cases htaken : m.taken name declared with
  | true =>
    have hguard : (declaresAttribute declared && m.attributes.any (·.key = name)) = true := htaken
    rw [outcome?, htaken, if_pos rfl, setMetric, if_pos hguard]
    exact ⟨rfl, rfl⟩
  | false =>
    have hguard : (declaresAttribute declared && m.attributes.any (·.key = name)) = false := htaken
    rw [outcome?, htaken, if_neg Bool.false_ne_true, setMetric, hguard, if_neg Bool.false_ne_true]
    cases m.storeKey name with
    | error f => exact ⟨rfl, rfl⟩
    | ok key =>
      dsimp only
      rcases computeValue now store key raw declared with ⟨result, after⟩
      cases result with
      | ok value => exact ⟨rfl, rfl⟩
      | error e => cases e <;> exact ⟨rfl, rfl⟩

theorem storeKey_congr {m m' : MetricSet} (h : m'.attributes = m.attributes) (name : String) :
    m'.storeKey name = m.storeKey name := by
  rw [storeKey_eq, storeKey_eq, h]

/-- Whether a definition is of a sampled kind and has a number. -/
def counts (values : Table Value) (d : MetricDefinition) : Bool :=
  match d.kind.kind?, (rawValue values d).finite? with
  | some k, some _ => k.isSampled
  | _, _ => false

theorem counts_iff {values : Table Value} {d : MetricDefinition} (key : String) :
    counts values d = true ↔
      ∃ k x, (⟨key, rawValue values d, d.kind⟩ : Reading).counted? = some (k, x) := by
  unfold counts Reading.counted?
  cases hkind : d.kind.kind? with
  | none =>
    rw [resolveKind_of_none hkind]
    cases d.kind.shown <;> simp
  | some k =>
    rw [resolveKind_of_some hkind]
    cases hvalue : (rawValue values d).finite? with
    | none => simp
    | some x => cases hsampled : k.isSampled <;> simp [hsampled]

theorem not_counts_of_null {values : Table Value} {d : MetricDefinition}
    (h : rawValue values d = .null) : counts values d = false := by
  unfold counts
  rw [h]
  cases d.kind.kind? <;> rfl

theorem counts_of_taken {m : MetricSet} {values : Table Value} {d : MetricDefinition}
    (h : m.taken d.name d.kind = true) : counts values d = false := by
  unfold taken declaresAttribute at h
  rw [Bool.and_eq_true, beq_iff_eq] at h
  have hkind : d.kind.kind? = some .attr := by
    rw [Value.kind?, h.1]
    exact SourceKind.ofLabel?_label .attr
  unfold counts
  rw [hkind]
  cases (rawValue values d).finite? <;> rfl

/-- **What setting a metric does to the store**, unless it ends in a fault: a sampled metric with a
number is recorded, and nothing else is. -/
theorem setMetric_store {now : Double} {store : Option Store} {m : MetricSet} {values : Table Value}
    {d : MetricDefinition}
    (h : outcome? now store m d.name (rawValue values d) d.kind ≠ none) :
    ((counts values d = false ∨ store = none) ∧
      (m.setMetric now store d.name (rawValue values d) d.kind).store = store) ∨
    ∃ s key x time, counts values d = true ∧ store = some s ∧ m.storeKey d.name = .ok key ∧
      wholeSecond now = .ok time ∧
      (m.setMetric now store d.name (rawValue values d) d.kind).store =
        some ⟨s.rows.put key ⟨x, time⟩⟩ := by
  cases htaken : m.taken d.name d.kind with
  | true =>
    refine Or.inl ⟨Or.inl (counts_of_taken htaken), ?_⟩
    rw [setMetric, if_pos (show (declaresAttribute d.kind && _) = true from htaken)]
  | false =>
    rw [outcome?, htaken, if_neg Bool.false_ne_true] at h
    have hguard : ¬ (declaresAttribute d.kind && m.attributes.any (·.key = d.name)) = true := by
      rw [show (declaresAttribute d.kind && m.attributes.any (·.key = d.name)) = false from htaken]
      exact Bool.false_ne_true
    cases hkey : m.storeKey d.name with
    | error f =>
      rw [hkey] at h
      exact absurd rfl h
    | ok key =>
      rw [hkey] at h
      dsimp only at h
      have hafter : (m.setMetric now store d.name (rawValue values d) d.kind).store =
          (computeValue now store key (rawValue values d) d.kind).2 := by
        rw [setMetric, if_neg hguard, hkey]
        dsimp only
        split <;> rfl
      rw [hafter]
      rcases computeValue_store_of_settled h with
        ⟨hnone, hstore⟩ | ⟨s, k, x, time, hcounted, hs, htime, hstore⟩
      · refine Or.inl ⟨hnone.imp (fun hcounted => ?_) id, hstore⟩
        rw [← Bool.not_eq_true, counts_iff key, hcounted]
        simp
      · have hcounts := (counts_iff key).mpr ⟨k, x, hcounted⟩
        exact Or.inr ⟨s, key, x, time, hcounts, hs, rfl, htime, hstore⟩

/-! ## One attempt -/

/-- A metric is among the metrics of a collection with its value, or its error is among the
errors. -/
def Settled (c : Collection) (name : String) : Except CollectorError Value → Prop
  | .ok value => c.set.metrics.get? name = some value
  | .error e => c.errors.get? name = some e

section Attempts

variable {now : Double} {values : Table Value} {c : Collection} {d : MetricDefinition}

theorem attempt_null (h : rawValue values d = .null) : attempt now values c d = c := by
  unfold attempt
  rw [h]
  split <;> rfl

/-- The step that an attempt makes. -/
theorem attempt_given (hfault : c.fault = none) (h : rawValue values d ≠ .null) :
    attempt now values c d =
      let step := setMetric now c.store c.set d.name (rawValue values d) d.kind
      match step.result with
      | .ok _ => { c with set := step.set, store := step.store }
      | .error (.reported e) =>
        { errors := c.errors.put d.name e, fault := none, set := step.set, store := step.store,
          log := c.log ++ [notSetRecord d.name e] }
      | .error f => { c with fault := some f, set := step.set, store := step.store } := by
  unfold attempt
  rw [hfault, Option.isSome_none, if_neg Bool.false_ne_true]
  cases hraw : rawValue values d <;> first | rfl | exact absurd hraw h

/-- **What an attempt does**, by the outcome of its metric. -/
theorem attempt_outcome (now : Double) (hfault : c.fault = none) (h : rawValue values d ≠ .null) :
    (attempt now values c d).store =
        (setMetric now c.store c.set d.name (rawValue values d) d.kind).store ∧
      match outcome? now c.store c.set d.name (rawValue values d) d.kind with
      | some (.ok value) =>
        (attempt now values c d).fault = none ∧ (attempt now values c d).errors = c.errors ∧
          (attempt now values c d).set = { c.set with metrics := c.set.metrics.put d.name value }
      | some (.error e) =>
        (attempt now values c d).fault = none ∧
          (attempt now values c d).errors = c.errors.put d.name e ∧
          (attempt now values c d).set = c.set
      | none => (attempt now values c d).fault.isSome = true := by
  have hset := setMetric_outcome now c.store c.set d.name (rawValue values d) d.kind
  rw [attempt_given hfault h]
  generalize setMetric now c.store c.set d.name (rawValue values d) d.kind = step at hset ⊢
  cases houtcome : outcome? now c.store c.set d.name (rawValue values d) d.kind with
  | none =>
    rw [houtcome] at hset
    obtain ⟨hresult, -⟩ := hset
    dsimp only
    split
    · rename_i hok
      rw [hok] at hresult
      cases hresult
    · rename_i hreported
      rw [hreported] at hresult
      cases hresult
    · exact ⟨rfl, rfl⟩
  | some r =>
    rw [houtcome] at hset
    cases r with
    | ok value =>
      obtain ⟨hresult, hset⟩ := hset
      simp only [hresult, hset]
      exact ⟨trivial, hfault, trivial, trivial⟩
    | error e =>
      obtain ⟨hresult, hset⟩ := hset
      simp only [hresult, hset]
      exact ⟨trivial, trivial, trivial, trivial⟩

/-- A collection that has ended goes no further. -/
theorem fault_of_fault_attempt (h : (attempt now values c d).fault = none) : c.fault = none := by
  unfold attempt at h
  split at h
  · exact h
  · rename_i hfault
    simpa using hfault

/-- An attempt that does not end the collection settles its metric. -/
theorem settled_attempt (hfault : (attempt now values c d).fault = none)
    (h : rawValue values d ≠ .null) :
    ∃ r, outcome? now c.store c.set d.name (rawValue values d) d.kind = some r ∧
      Settled (attempt now values c d) d.name r := by
  obtain ⟨-, hdone⟩ := attempt_outcome now (fault_of_fault_attempt hfault) h
  split at hdone
  · rename_i value houtcome
    obtain ⟨-, -, hset⟩ := hdone
    refine ⟨_, houtcome, ?_⟩
    rw [Settled, hset]
    exact Table.get?_put_self _ _ _
  · rename_i e houtcome
    obtain ⟨-, herrors, -⟩ := hdone
    refine ⟨_, houtcome, ?_⟩
    rw [Settled, herrors]
    exact Table.get?_put_self _ _ _
  · rw [hfault] at hdone
    cases hdone

/-- Later attempts leave what is settled under other names alone. -/
theorem Settled.attempt {name : String} {r : Except CollectorError Value} (hr : Settled c name r)
    (hfault : (attempt now values c d).fault = none)
    (hname : d.name = name → rawValue values d = .null) :
    Settled (attempt now values c d) name r := by
  by_cases h : rawValue values d = .null
  · rwa [attempt_null h]
  have hne : name ≠ d.name := fun heq => h (hname heq.symm)
  obtain ⟨-, hdone⟩ := attempt_outcome now (fault_of_fault_attempt hfault) h
  split at hdone
  · obtain ⟨-, herrors, hset⟩ := hdone
    cases r with
    | ok value =>
      rw [Settled, hset]
      exact (Table.get?_put_of_ne hne _ _).trans hr
    | error e =>
      rw [Settled, herrors]
      exact hr
  · obtain ⟨-, herrors, hset⟩ := hdone
    cases r with
    | ok value =>
      rw [Settled, hset]
      exact hr
    | error e =>
      rw [Settled, herrors]
      exact (Table.get?_put_of_ne hne _ _).trans hr
  · rw [hfault] at hdone
    cases hdone

end Attempts

end Baseline.MetricSet
