import Baseline.Failure
import Baseline.Value.Order

/-!
# Identifying attributes

The attributes of a metric set tell which instance it reports on.  They are kept sorted by key
and then by value, so that the order in which they were given does not matter.

* `Attribute.namespaced` : an attribute as part of a store key.
* `Attribute.sorted` : the attributes in order, or the fault of two values without one.
-/

set_option autoImplicit false

namespace Baseline

/-- A key and a value that identify a metric set. -/
structure Attribute where
  key : String
  value : Value

namespace Attribute

/-- The part of a store key that stands for an attribute. -/
def namespaced (a : Attribute) : Except Fault String := do
  let value ← a.value.plain
  return a.key ++ "==" ++ value

/-- Whether one attribute comes before another. -/
def before (a b : Attribute) : Except Fault Bool :=
  if a.key = b.key then
    if a.value.equal b.value then .ok false else Value.relates .less a.value b.value
  else .ok (decide (a.key < b.key))

/-- Puts an attribute in front of the first of the sorted ones that it comes before. -/
def insert (a : Attribute) : List Attribute → Except Fault (List Attribute)
  | [] => .ok [a]
  | b :: rest => do
    if ← a.before b then return a :: b :: rest
    let tail ← insert a rest
    return b :: tail

/-- The attributes sorted by key and value, equal ones in the order in which they came. -/
def sorted (attributes : List Attribute) : Except Fault (List Attribute) :=
  attributes.foldlM (fun done a => a.insert done) []

end Attribute

end Baseline
