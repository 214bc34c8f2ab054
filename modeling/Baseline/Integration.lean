import Baseline.MetricSet.Basic
import Baseline.Store.Opening

/-!
# Integrations

An integration is one run of a collector: it has a name and a version, its settings, and the
event types of the metric sets that it handed out.  When synchronized, its sets share a lock.

* `Integration.make` : an integration that has handed out nothing.
* `Integration.save` : saves its store and tells so.
-/

set_option autoImplicit false

namespace Baseline

/-- One run of a collector. -/
structure Integration where
  name : String
  version : String
  settings : Settings
  synchronized : Bool
  eventTypes : List String

namespace Integration

/-- The integration with a name and a version, both required. -/
def make (name version : String) (settings : Settings) (synchronized : Bool) :
    Except Failure Integration :=
  if name = "" then .error (.reported .nameEmpty)
  else if version = "" then .error (.reported .versionEmpty)
  else .ok ⟨name, version, settings, synchronized, []⟩

/-- Notes a metric set that is handed out. -/
def addSet (i : Integration) (eventType : String) : Integration :=
  { i with eventTypes := i.eventTypes ++ [eventType] }

/-- The record about a store that is about to be saved. -/
def savingRecord (i : Integration) (s : Store) : LogRecord where
  logger := "collector_sdk.integration"
  level := Level.debug
  message := "Saving integration store"
  fields := [("integration", .text i.name), ("entries", .int s.size)]

/-- Saves the store of an integration. -/
def save (tree : FileTree) (time : Double) (i : Integration) (backing : Backing) (s : Store) :
    DiskStep Unit :=
  let step := backing.save tree time s
  { step with log := i.savingRecord s :: step.log }

end Integration

end Baseline
