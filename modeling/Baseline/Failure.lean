import Baseline.Value
import Baseline.Settings.Violation

/-!
# Reports of failure

The collector's own errors fall into a few classes, so that a caller can decide for each
metric whether the collection cycle goes on:

* *invalid argument* and *invalid value* blame the caller and leave the store untouched;
* *sampling skipped* is expected and recoverable: the store already holds the new baseline;
* *failed precondition* means that the operation cannot run in the present setup;
* *persistence* tells that a directory or a file could not be made or written.

`CollectorError` lists the causes; `CollectorError.report` gives each its class, its wording
and its details.  A `Failure` is one of these, a fault, or a set of settings that were refused.
-/

set_option autoImplicit false

namespace Baseline

/-! ## Classes -/

/-- The classes of reported errors. -/
inductive ErrorClass where
  | collector
  | invalidArgument
  | invalidValue
  | failedPrecondition
  | samplingSkipped
  | tooCloseSamples
  | counterReset
  | persistence
deriving DecidableEq, Repr

namespace ErrorClass

/-- The name of a class. -/
def name : ErrorClass → String
  | collector => "CollectorError"
  | invalidArgument => "InvalidArgumentError"
  | invalidValue => "InvalidValueError"
  | failedPrecondition => "FailedPreconditionError"
  | samplingSkipped => "SamplingSkippedError"
  | tooCloseSamples => "TooCloseSamplesError"
  | counterReset => "CounterResetError"
  | persistence => "PersistenceError"

def all : List ErrorClass := [collector, invalidArgument, invalidValue, failedPrecondition,
  samplingSkipped, tooCloseSamples, counterReset, persistence]

/-- The class with a name. -/
def ofName? (s : String) : Option ErrorClass := all.find? (·.name = s)

/-- The code that reports of a class carry; the general class takes one from its user. -/
def code? : ErrorClass → Option String
  | collector => none
  | invalidArgument => some "invalid_argument"
  | invalidValue => some "invalid_value"
  | failedPrecondition => some "failed_precondition"
  | samplingSkipped | tooCloseSamples | counterReset => some "sampling_skipped"
  | persistence => some "persistence"

/-- A class and the more general ones above it, the nearest first. -/
def lineage : ErrorClass → List ErrorClass
  | collector => [collector]
  | tooCloseSamples => [tooCloseSamples, samplingSkipped, collector]
  | counterReset => [counterReset, samplingSkipped, collector]
  | c => [c, collector]

/-- Whether a class is one of the skipped samplings. -/
def isSkipped (c : ErrorClass) : Bool := c.lineage.contains samplingSkipped

end ErrorClass

/-! ## Reports -/

/-- What a reported error tells its reader. -/
structure ErrorReport where
  errorClass : ErrorClass
  code : String
  message : String
  details : Value

namespace ErrorReport

/-- A report of a class; details that are empty count as none. -/
def make (c : ErrorClass) (code message : String) (details : Value) : ErrorReport :=
  ⟨c, code, message, if details.isTruthy then details else .map []⟩

/-- The report as a value. -/
def toValue (r : ErrorReport) : Value := .ofFields [
  ("error_code", .text r.code), ("message", .text r.message), ("details", r.details)]

/-- The report for display. -/
def shown (r : ErrorReport) : Except Fault String := do
  let details ← r.details.shown
  return r.errorClass.name ++ "(error_code=" ++ Text.quoted r.code ++ ", message=" ++
    Text.quoted r.message ++ ", details=" ++ details ++ ")"

end ErrorReport

/-! ## Causes -/

/-- The causes of the collector's own errors.  Texts called `shown` are displays of values. -/
inductive CollectorError where
  | unknownSourceName (name : Value) (plain : String)
  | unknownKind (metric shown : String)
  | attributeNotText (metric typeName : String)
  | notNumeric (metric shown : String)
  | noStore (metric : String)
  | tooClose (metric : String) (timestamp : Int)
  | counterReset (metric : String) (previous current : Double)
  | attributeTaken (metric : String)
  | nameMissing
  | idMissing
  | badTtl (plain : String) (ttl : Value)
  | nameEmpty
  | versionEmpty
  | directoryNotCreated (path parent : String) (error : FileError)
  | fileNotInspected (path : String) (error : FileError)
  | fileNotWritten (path : String) (error : FileError)

namespace CollectorError

/-- The class of a cause. -/
def errorClass : CollectorError → ErrorClass
  | unknownSourceName _ _ | attributeTaken _ | nameMissing | idMissing | badTtl _ _ | nameEmpty
  | versionEmpty => .invalidArgument
  | unknownKind _ _ | attributeNotText _ _ | notNumeric _ _ => .invalidValue
  | noStore _ => .failedPrecondition
  | tooClose _ _ => .tooCloseSamples
  | counterReset _ _ _ => .counterReset
  | directoryNotCreated _ _ _ | fileNotInspected _ _ | fileNotWritten _ _ => .persistence

/-- The wording of a cause. -/
def message : CollectorError → String
  | unknownSourceName _ plain => "unknown source type " ++ plain
  | unknownKind metric _ => "unknown source type for key " ++ metric
  | attributeNotText metric _ => "invalid type for attribute " ++ metric
  | notNumeric metric _ => "invalid non-numeric value for metric " ++ metric
  | noStore _ => "cannot use deltas nor rates without persistent store"
  | tooClose metric _ => "samples for " ++ metric ++ " are too close in time, skipping sampling"
  | counterReset metric _ _ => "source for " ++ metric ++ " was reset, skipping sampling"
  | attributeTaken _ => "cannot overwrite metric-set attributes"
  | nameMissing => "integration name not specified"
  | idMissing => "integration id not specified"
  | badTtl plain _ => "invalid TTL: " ++ plain
  | nameEmpty => "integration name cannot be empty"
  | versionEmpty => "integration version cannot be empty"
  | directoryNotCreated _ parent e =>
    "store directory " ++ parent ++ " could not be created: " ++ e.message
  | fileNotInspected path e => "store file " ++ path ++ " could not be inspected: " ++ e.message
  | fileNotWritten path e => "store file " ++ path ++ " could not be written: " ++ e.message

/-- The details of a cause, by name. -/
def details : CollectorError → List (String × Value)
  | unknownSourceName name _ => [("source_type", name)]
  | unknownKind metric shown => [("metric", .text metric), ("source_type", .text shown)]
  | attributeNotText metric typeName => [("metric", .text metric), ("type", .text typeName)]
  | notNumeric metric shown => [("metric", .text metric), ("value", .text shown)]
  | noStore metric | attributeTaken metric => [("metric", .text metric)]
  | tooClose metric timestamp => [("metric", .text metric), ("timestamp", .int timestamp)]
  | counterReset metric previous current =>
    [("metric", .text metric), ("previous", .float previous), ("current", .float current)]
  | nameMissing | idMissing | nameEmpty | versionEmpty => []
  | badTtl _ ttl => [("ttl", ttl)]
  | directoryNotCreated path _ _ | fileNotInspected path _ | fileNotWritten path _ =>
    [("path", .text path)]

/-- The report of a cause. -/
def report (e : CollectorError) : ErrorReport :=
  ErrorReport.make e.errorClass (e.errorClass.code?.getD "") e.message (.ofFields e.details)

end CollectorError

/-! ## Failures -/

/-- How an operation can fail. -/
inductive Failure where
  | reported (error : CollectorError)
  | fault (fault : Fault)
  | refused (violations : List Violation)

end Baseline
