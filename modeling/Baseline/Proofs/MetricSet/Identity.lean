import Baseline.MetricSet.Basic
import Baseline.Proofs.MetricSet.Attribute
import Baseline.Proofs.Number.Rounding
import Baseline.Proofs.Table

/-!
# What metrics do to the identity of their set

A metric set reports its event and its attributes as metrics too.  It refuses an attribute that
would overwrite one of these attributes, and nothing else: any other metric may take the place of
an attribute, and every metric may take that of the event.

* `MetricSet.reports`, `SetCall.reports`, `reportsAll` : the metrics that were reported.
* `MetricSet.ChangedBy` : what reporting metrics does to a set.
* `SetCall.changedBy_perform`, `changedBy_afterAll` : **a call, and all calls, change the metrics
  that they reported and no others.**
* `gauge_over_attribute` : a gauge may overwrite an attribute.
* `identity_kept` : **else every attribute stays, and the event stays if nothing else was reported
  as the event.**
-/

set_option autoImplicit false

namespace Baseline

/-! ## Calls and reports -/

/-- A metric that was reported, and the kind that it declared. -/
structure Report where
  name : String
  declared : Value

/-- A call on a metric set: the clock reading at which it is made, and the store that it finds, to
which other sets may have written. -/
inductive SetCall where
  | one (now : Double) (store : Option Store) (name : String) (raw declared : Value)
  | many (now : Double) (store : Option Store) (values : Value)
      (definitions : List MetricDefinition)

namespace MetricSet

/-- The report of one metric, if it succeeds. -/
def reports (now : Double) (store : Option Store) (m : MetricSet) (name : String)
    (raw declared : Value) : List Report :=
  match (m.setMetric now store name raw declared).result with
  | .ok _ => [⟨name, declared⟩]
  | .error _ => []

/-- The report of one definition, if it is attempted and succeeds. -/
def attemptReports (now : Double) (values : Table Value) (c : Collection) (d : MetricDefinition) :
    List Report :=
  if c.fault.isSome then []
  else
    match rawValue values d with
    | .null => []
    | raw => c.set.reports now c.store d.name raw d.kind

/-- The reports of definitions attempted in turn. -/
def collectReports (now : Double) (values : Table Value) (c : Collection) :
    List MetricDefinition → List Report
  | [] => []
  | d :: rest =>
    attemptReports now values c d ++ collectReports now values (attempt now values c d) rest

end MetricSet

namespace SetCall

/-- The set that a call leaves. -/
def perform (m : MetricSet) : SetCall → MetricSet
  | one now store name raw declared => (m.setMetric now store name raw declared).set
  | many now store values definitions => (m.setMetricsFrom now store values definitions).set

/-- The metrics that a call reports. -/
def reports (m : MetricSet) : SetCall → List Report
  | one now store name raw declared => m.reports now store name raw declared
  | many now store (.map es) definitions =>
    MetricSet.collectReports now (MetricSet.byName es) ⟨[], none, m, store, []⟩ definitions
  | many _ _ _ _ => []

/-- The set that calls leave, one after the other. -/
def afterAll (m : MetricSet) (calls : List SetCall) : MetricSet := calls.foldl perform m

/-- The metrics that calls report, one after the other. -/
def reportsAll (m : MetricSet) : List SetCall → List Report
  | [] => []
  | c :: rest => c.reports m ++ reportsAll (c.perform m) rest

end SetCall

/-! ## Changes -/

namespace MetricSet

/-- Reporting metrics changes a set: the attributes that identify it are the same, other metrics
stay, and none that was reported as an attribute has the name of one of these attributes. -/
structure ChangedBy (reported : List Report) (m m' : MetricSet) : Prop where
  attributes : m'.attributes = m.attributes
  others : ∀ name, (∀ r ∈ reported, r.name ≠ name) → m'.metrics.get? name = m.metrics.get? name
  guarded : ∀ r ∈ reported, declaresAttribute r.declared = true →
    ∀ a ∈ m.attributes, a.key ≠ r.name

namespace ChangedBy

theorem refl (m : MetricSet) : ChangedBy [] m m where
  attributes := rfl
  others := fun _ _ => rfl
  guarded := fun _ hr => absurd hr List.not_mem_nil

theorem trans {reported reported' : List Report} {m m' m'' : MetricSet}
    (h : ChangedBy reported m m') (h' : ChangedBy reported' m' m'') :
    ChangedBy (reported ++ reported') m m'' where
  attributes := h'.attributes.trans h.attributes
  others := fun name hname =>
    (h'.others name fun r hr => hname r (List.mem_append_right _ hr)).trans
      (h.others name fun r hr => hname r (List.mem_append_left _ hr))
  guarded := by
    intro r hr hattribute a ha
    rcases List.mem_append.mp hr with hr | hr
    · exact h.guarded r hr hattribute a ha
    · exact h'.guarded r hr hattribute a (h.attributes ▸ ha)

end ChangedBy

/-- A metric is set or is not: then the set stays as it is. -/
theorem setMetric_cases (now : Double) (store : Option Store) (m : MetricSet) (name : String)
    (raw declared : Value) :
    (∃ e, (m.setMetric now store name raw declared).result = .error e ∧
      (m.setMetric now store name raw declared).set = m) ∨
    (∃ value, (m.setMetric now store name raw declared).result = .ok () ∧
      (m.setMetric now store name raw declared).set =
        { m with metrics := m.metrics.put name value } ∧
      ¬ (declaresAttribute declared && m.attributes.any (·.key = name)) = true) := by
  unfold setMetric
  split
  · exact .inl ⟨_, rfl, rfl⟩
  rename_i hguard
  cases m.storeKey name with
  | error f => exact .inl ⟨_, rfl, rfl⟩
  | ok key =>
    dsimp only
    rcases computeValue now store key raw declared with ⟨result, after⟩
    cases result with
    | error e => exact .inl ⟨e, rfl, rfl⟩
    | ok value => exact .inr ⟨value, rfl, rfl, hguard⟩

/-- One metric takes its place if it is reported, and else nothing changes. -/
theorem changedBy_setMetric (now : Double) (store : Option Store) (m : MetricSet) (name : String)
    (raw declared : Value) :
    ChangedBy (m.reports now store name raw declared) m
      (m.setMetric now store name raw declared).set := by
  unfold reports
  rcases setMetric_cases now store m name raw declared with
    ⟨e, hresult, hset⟩ | ⟨value, hresult, hset, hguard⟩
  · rw [hresult, hset]
    exact .refl m
  · rw [hresult, hset]
    refine ⟨rfl, fun other hother => ?_, fun r hr hattribute a ha heq => hguard ?_⟩
    · exact Table.get?_put_of_ne (Ne.symm (hother _ List.mem_cons_self)) _ _
    · obtain rfl := List.mem_singleton.mp hr
      rw [Bool.and_eq_true, List.any_eq_true]
      exact ⟨hattribute, a, ha, decide_eq_true heq⟩

theorem changedBy_attempt (now : Double) (values : Table Value) (c : Collection)
    (d : MetricDefinition) :
    ChangedBy (attemptReports now values c d) c.set (attempt now values c d).set := by
  have hset := changedBy_setMetric now c.store c.set d.name (rawValue values d) d.kind
  unfold attemptReports attempt
  split
  · exact .refl _
  generalize rawValue values d = raw at hset ⊢
  cases raw with
  | null => exact .refl _
  | _ =>
    dsimp only
    split <;> exact hset

theorem changedBy_attempts (now : Double) (values : Table Value) (c : Collection)
    (definitions : List MetricDefinition) :
    ChangedBy (collectReports now values c definitions) c.set
      (definitions.foldl (attempt now values) c).set := by
  induction definitions generalizing c with
  | nil => exact .refl _
  | cons d rest ih => exact (changedBy_attempt now values c d).trans (ih _)

end MetricSet

namespace SetCall

open MetricSet

/-- **A call changes the metrics that it reports and no others.** -/
theorem changedBy_perform (m : MetricSet) (c : SetCall) :
    ChangedBy (c.reports m) m (c.perform m) := by
  cases c with
  | one now store name raw declared => exact changedBy_setMetric now store m name raw declared
  | many now store values definitions =>
    cases values with
    | map es => exact changedBy_attempts now _ ⟨[], none, m, store, []⟩ definitions
    | _ => cases definitions <;> exact .refl m

/-- **Calls one after the other change the metrics that they report and no others.** -/
theorem changedBy_afterAll (m : MetricSet) (calls : List SetCall) :
    ChangedBy (reportsAll m calls) m (afterAll m calls) := by
  induction calls generalizing m with
  | nil => exact .refl m
  | cons c rest ih => exact (changedBy_perform m c).trans (ih _)

end SetCall

/-! ## The identity of a set -/

/-- **A set whose attributes have different keys can be made**: its metrics are the event and the
attributes. -/
theorem MetricSet.make_of_nodup {attributes : List Attribute}
    (hkeys : (attributes.map (·.key)).Nodup) (hevent : eventTypeKey ∉ attributes.map (·.key))
    (event : String) :
    ∃ m, make event attributes = .ok m ∧ m.attributes.Perm attributes ∧ m.metrics.keys.Nodup ∧
      m.metrics = (eventTypeKey, .text event) :: m.attributes.map fun a => (a.key, a.value) := by
  obtain ⟨ordered, hsorted, hperm⟩ := Attribute.sorted_of_nodup hkeys
  let rows : Table Value := (eventTypeKey, .text event) :: ordered.map fun a => (a.key, a.value)
  have hrows : rows.keys.Nodup := by
    have hsame : rows.keys = eventTypeKey :: ordered.map (·.key) := by
      simp [rows, Table.keys, Function.comp_def]
    rw [hsame, List.nodup_cons]
    exact ⟨fun h => hevent ((hperm.map _).mem_iff.mp h), (hperm.map _).nodup_iff.mpr hkeys⟩
  have hmetrics : ordered.foldl (fun t a => Table.put a.key a.value t)
      [(eventTypeKey, Value.text event)] = rows := by
    have hput := Table.foldl_put_eq_append (t := [(eventTypeKey, Value.text event)]) hrows
    rwa [List.foldl_map] at hput
  refine ⟨⟨event, ordered, rows⟩, ?_, hperm, hrows, rfl⟩
  rw [make, hsorted]
  exact congrArg (fun t => Except.ok (MetricSet.mk event ordered t)) hmetrics

open SetCall MetricSet

/-- **A metric may overwrite what identifies its set**: a gauge takes the place of an attribute, and
an attribute that of the event. -/
theorem gauge_over_attribute :
    ([(⟨"host", .text "db-1"⟩ : Attribute)].map (·.key)).Nodup ∧
      eventTypeKey ∉ [(⟨"host", .text "db-1"⟩ : Attribute)].map (·.key) ∧
      ∃ m, make "S" [⟨"host", .text "db-1"⟩] = .ok m ∧
        (afterAll m [.one (.ofWhole 1000) none "host" (.int 5) (.kind .gauge),
            .one (.ofWhole 1000) none "event_type" (.text "T") (.kind .attr)]).metrics =
          [("event_type", .text "T"), ("host", .int 5)] := by
  have hfinite : (Value.int 5).finite? = some (.ofWhole 5) := by decide +kernel
  have hgauge : ∀ key, computeValue (.ofWhole 1000) none key (.int 5) (.kind .gauge) =
      (.ok (.int 5), none) := by
    intro key
    simp only [computeValue, resolveKind, computeForKind, hfinite]
    rfl
  refine ⟨by decide, by decide, _, rfl, ?_⟩
  rw [afterAll, List.foldl_cons, perform, setMetric, if_neg (by decide)]
  simp only [hgauge]
  rfl

/-- **A set keeps its identity but for what is reported over it.**  After any calls every attribute
is still there, unless a metric with its name that is no attribute was reported; and the event is
still there, unless a metric with the name of the event was reported. -/
theorem identity_kept {attributes : List Attribute} (hkeys : (attributes.map (·.key)).Nodup)
    (hevent : eventTypeKey ∉ attributes.map (·.key)) (event : String) (calls : List SetCall) :
    ∃ m, make event attributes = .ok m ∧
      (∀ a ∈ attributes,
        (∀ r ∈ reportsAll m calls, declaresAttribute r.declared = false → r.name ≠ a.key) →
        (afterAll m calls).metrics.get? a.key = some a.value) ∧
      ((∀ r ∈ reportsAll m calls, r.name ≠ eventTypeKey) →
        (afterAll m calls).metrics.get? eventTypeKey = some (.text event)) := by
  obtain ⟨m, hmake, hperm, hnodup, hmetrics⟩ := make_of_nodup hkeys hevent event
  have hchanged := changedBy_afterAll m calls
  refine ⟨m, hmake, fun a ha hreports => ?_, fun hreports => ?_⟩
  · have hmem : (a.key, a.value) ∈ m.metrics := by
      rw [hmetrics]
      exact List.mem_cons_of_mem _ (List.mem_map_of_mem (hperm.mem_iff.mpr ha))
    rw [hchanged.others a.key fun r hr heq => ?_]
    · exact Table.get?_of_mem hnodup hmem
    · cases hkind : declaresAttribute r.declared with
      | false => exact hreports r hr hkind heq
      | true => exact hchanged.guarded r hr hkind a (hperm.mem_iff.mpr ha) heq.symm
  · rw [hchanged.others eventTypeKey hreports, hmetrics, Table.get?, if_pos rfl]

/-! ### A host and its port -/

namespace HostAndPort

/-- What identifies the set. -/
def given : List Attribute := [⟨"port", .text "6379"⟩, ⟨"host", .text "db-1"⟩]

/-- A gauge, an attribute that is refused, and two metrics at once, the first of which fails. -/
def calls : List SetCall := [
  .one (.ofWhole 1000) none "net.rx" (.int 5) (.kind .gauge),
  .one (.ofWhole 1010) none "host" (.text "db-2") (.kind .attr),
  .many (.ofWhole 1020) none (.ofFields [("net.tx", .int 1), ("role", .text "primary")])
    [⟨"net.tx", .kind .rate, .null⟩, ⟨"role", .kind .attr, .null⟩]]

end HostAndPort

open HostAndPort in
theorem identity_kept_hostAndPort :
    (given.map (·.key)).Nodup ∧ eventTypeKey ∉ given.map (·.key) ∧
      ∃ m, make "S" given = .ok m ∧
        (∀ a ∈ given,
          (∀ r ∈ reportsAll m calls, declaresAttribute r.declared = false → r.name ≠ a.key) →
          (afterAll m calls).metrics.get? a.key = some a.value) ∧
        ((∀ r ∈ reportsAll m calls, r.name ≠ eventTypeKey) →
          (afterAll m calls).metrics.get? eventTypeKey = some (.text "S")) :=
  ⟨by decide, by decide, identity_kept (by decide) (by decide) "S" calls⟩

end Baseline
