import Baseline.MetricSet.Attribute
import Baseline.Sampling.Compute
import Baseline.Log.Record
import Baseline.Value.Entries

/-!
# Metric sets

A metric set collects the reported values of one event.  Its attributes are reported as
metrics too, and they prefix the store keys of its counters, so that sets for different
instances never mean the same baseline when their keys differ.

* `MetricSet.make` : the set of an event with its attributes.
* `MetricSet.storeKey` : the store key of a metric.
* `MetricSet.setMetric` : computes one metric and reports it.
* `MetricSet.setMetrics`, `MetricSet.setMetricsFrom` : all defined metrics at once, from a
  table or from an observed map; the errors of single metrics are collected, and only a fault
  ends the collection.

A step returns its result together with the set and the store that remain, whether it
succeeded or not.
-/

set_option autoImplicit false

namespace Baseline

/-- The metric that holds the name of the event. -/
def eventTypeKey : String := "event_type"

/-- What stands between the parts of a store key. -/
def namespaceSeparator : String := "::"

/-- How one metric is read and reported. -/
structure MetricDefinition where
  name : String
  kind : Value
  default : Value

/-- The metrics reported for one event, and the attributes that identify the instance. -/
structure MetricSet where
  eventType : String
  attributes : List Attribute
  metrics : Table Value

namespace MetricSet

/-- The set of an event before anything was observed. -/
def make (eventType : String) (attributes : List Attribute) : Except Fault MetricSet := do
  let attributes ← Attribute.sorted attributes
  let metrics := attributes.foldl (fun t a => Table.put a.key a.value t)
    [(eventTypeKey, Value.text eventType)]
  return ⟨eventType, attributes, metrics⟩

/-- The store key of a metric: the attributes, then the name. -/
def storeKey (m : MetricSet) (name : String) : Except Fault String := do
  let parts ← m.attributes.mapM Attribute.namespaced
  return String.intercalate namespaceSeparator (parts ++ [name])

/-- Whether a declared kind is that of attributes. -/
def declaresAttribute (declared : Value) : Bool :=
  declared.text? == some SourceKind.attr.label

end MetricSet

/-- What a step on a metric set leaves behind. -/
structure MetricStep (α : Type) where
  result : Except Failure α
  set : MetricSet
  store : Option Store

namespace MetricSet

/-- Reports one metric.  An attribute must not overwrite one that identifies the set. -/
def setMetric (now : Double) (store : Option Store) (m : MetricSet) (name : String)
    (raw declared : Value) : MetricStep Unit :=
  if declaresAttribute declared && m.attributes.any (·.key = name) then
    ⟨.error (.reported (.attributeTaken name)), m, store⟩
  else
    match m.storeKey name with
    | .error f => ⟨.error (.fault f), m, store⟩
    | .ok key =>
      let (result, after) := computeValue now store key raw declared
      match result with
      | .ok value => ⟨.ok (), { m with metrics := m.metrics.put name value }, after⟩
      | .error e => ⟨.error e, m, after⟩

/-- The logger of this module. -/
def loggerName : String := "collector_sdk.metric.metric_set"

/-- The record of a metric that was not set. -/
def notSetRecord (name : String) (e : CollectorError) : LogRecord where
  logger := loggerName
  level := Level.debug
  message := "Metric not set"
  fields := [("metric", .text name), ("error", .text e.message)]

/-- A collection under way: the errors so far, by metric name, and the records written. -/
structure Collection where
  errors : Table CollectorError
  fault : Option Failure
  set : MetricSet
  store : Option Store
  log : List LogRecord

/-- The raw value of a defined metric; a missing one takes the default. -/
def rawValue (values : Table Value) (d : MetricDefinition) : Value :=
  (values.get? d.name).getD d.default

/-- Attempts one definition.  Null is skipped, and after a fault nothing more is attempted. -/
def attempt (now : Double) (values : Table Value) (c : Collection) (d : MetricDefinition) :
    Collection :=
  if c.fault.isSome then c
  else
    match rawValue values d with
    | .null => c
    | raw =>
      let step := setMetric now c.store c.set d.name raw d.kind
      match step.result with
      | .ok _ => { c with set := step.set, store := step.store }
      | .error (.reported e) =>
        { errors := c.errors.put d.name e, fault := none, set := step.set, store := step.store,
          log := c.log ++ [notSetRecord d.name e] }
      | .error f => { c with fault := some f, set := step.set, store := step.store }

/-- Attempts every definition in turn. -/
def setMetrics (now : Double) (store : Option Store) (m : MetricSet) (values : Table Value)
    (definitions : List MetricDefinition) : Collection :=
  definitions.foldl (attempt now values) ⟨[], none, m, store, []⟩

/-- The entries of a map by their names. -/
def byName (es : Entries) : Table Value :=
  es.filterMap fun e => e.1.text?.map fun name => (name, e.2)

/-- Attempts every definition in turn with the entries of a map.  In anything else nothing can
be looked up, and the first attempt fails. -/
def setMetricsFrom (now : Double) (store : Option Store) (m : MetricSet) (raw : Value)
    (definitions : List MetricDefinition) : Collection :=
  match raw, definitions with
  | .map es, _ => m.setMetrics now store (byName es) definitions
  | _, [] => m.setMetrics now store [] []
  | v, _ :: _ => ⟨[], some (.fault (.noMember v.fullTypeName "get")), m, store, []⟩

end MetricSet

end Baseline
