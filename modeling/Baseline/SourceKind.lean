/-!
# Kinds of sources

What sort of quantity stands behind a metric decides how it is reported.

* a *gauge* or an *attribute* is reported as it is;
* a *rate* or a *delta* comes from an ever-growing counter and is reported as the change since
  the previous sample, per second or as a whole, with a positive-only variant of each;
* a *count* or a *summary* was aggregated at the source and passes through.
-/

set_option autoImplicit false

namespace Baseline

/-- The kind of source behind a metric. -/
inductive SourceKind where
  | gauge
  | rate
  | delta
  | prate
  | pdelta
  | attr
  | count
  | summary
deriving DecidableEq, Repr

namespace SourceKind

/-- All kinds, in the order in which they are listed. -/
def all : List SourceKind := [gauge, rate, delta, prate, pdelta, attr, count, summary]

/-- The name under which a kind is declared. -/
def label : SourceKind → String
  | gauge => "gauge"
  | rate => "rate"
  | delta => "delta"
  | prate => "prate"
  | pdelta => "pdelta"
  | attr => "attribute"
  | count => "count"
  | summary => "summary"

/-- The name in capitals. -/
def constant (k : SourceKind) : String := k.label.toUpper

/-- The kind with exactly this label. -/
def ofLabel? (s : String) : Option SourceKind := all.find? (·.label = s)

/-- Whether the reported value is derived from the previous sample. -/
def isSampled : SourceKind → Bool
  | rate | delta | prate | pdelta => true
  | _ => false

/-- Whether the change is divided by the elapsed time. -/
def isRate : SourceKind → Bool
  | rate | prate => true
  | _ => false

/-- Whether the kind is one of the positive-only variants. -/
def isPositive : SourceKind → Bool
  | prate | pdelta => true
  | _ => false

/-- Whether the raw value has to be a number. -/
def isNumeric (k : SourceKind) : Bool := k == gauge || k.isSampled

/-- Whether the source itself aggregates. -/
def isAggregate : SourceKind → Bool
  | count | summary => true
  | _ => false

theorem mem_all (k : SourceKind) : k ∈ all := by cases k <;> decide

theorem ofLabel?_label (k : SourceKind) : ofLabel? k.label = some k := by cases k <;> decide

end SourceKind

end Baseline
