import Baseline.Sampling.Kind
import Baseline.Store.Basic

/-!
# Sampling: from a raw observation to a reported value

Gauges, attributes and aggregates are reported unchanged.  Counters are reported as the change
since the previous sample, which the store keeps between collector runs.

For each key there are two states, unseen and seen.  The first sample of an unseen key reports
zero.  Every later one is compared with the stored sample, but only after the new one has been
recorded: a skipped round never poisons the next, which starts from a fresh baseline.

* `compare` : what two successive samples of a counter report.
* `sampleCounter` : records a sample and compares it with the one before.
* `computeValue` : the reported value of a metric, and the store that remains.
-/

set_option autoImplicit false

namespace Baseline

/-- The report of a counter of a kind, whose sample was `old` and now is `new`. -/
def compareSamples (key : String) (kind : SourceKind) (old new : Sample) :
    Except Failure Double :=
  let elapsed := new.time - old.time
  if elapsed = 0 then .error (.reported (.tooClose key new.time))
  else
    let change := new.value.sub old.value
    if change.less .zero then .error (.reported (.counterReset key old.value new.value))
    else if kind.isRate then
      match Double.ofInt? elapsed with
      | some seconds => .ok (change.div seconds)
      | none => .error (.fault .tooLargeForDouble)
    else .ok change

/-- Records a sample of a counter and reports its change.  The store is the new one whenever
the sample could be recorded, whatever the comparison says. -/
def sampleCounter (now : Double) (key : String) (value : Double) (kind : SourceKind)
    (store : Store) : Except Failure Double × Store :=
  match store.record now key value with
  | .error f => (.error (.fault f), store)
  | .ok (time, after) =>
    match store.sample? key with
    | none => (.ok .zero, after)
    | some old => (compareSamples key kind old ⟨value, time⟩, after)

/-- The refusal of a raw value that is no finite number. -/
def refuseNonNumeric (key : String) (raw : Value) : Failure :=
  match raw.shown with
  | .ok shown => .reported (.notNumeric key shown)
  | .error f => .fault f

/-- The reported value of a metric whose kind is known, and the store that remains. -/
def computeForKind (now : Double) (store : Option Store) (key : String) (raw : Value)
    (kind : SourceKind) : Except Failure Value × Option Store :=
  if kind.isAggregate then (.ok raw, store)
  else if kind = .attr then
    match raw.text? with
    | some _ => (.ok raw, store)
    | none => (.error (.reported (.attributeNotText key raw.typeName)), store)
  else
    match raw.finite? with
    | none => (.error (refuseNonNumeric key raw), store)
    | some value =>
      if kind = .gauge then (.ok raw, store)
      else
        match store with
        | none => (.error (.reported (.noStore key)), none)
        | some s =>
          let (result, after) := sampleCounter now key value kind s
          (result.map .float, some after)

/-- The reported value of a metric, and the store that remains. -/
def computeValue (now : Double) (store : Option Store) (key : String) (raw declared : Value) :
    Except Failure Value × Option Store :=
  match resolveKind key declared with
  | .ok kind => computeForKind now store key raw kind
  | .error f => (.error f, store)

end Baseline
