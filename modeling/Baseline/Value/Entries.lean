import Baseline.Value.Order

/-!
# Entries of a map

A map is the list of its entries in the order in which their keys first came.  Writing to a
key that is present keeps its place.

* `Entries.get?`, `Entries.put` : reading and writing one key.
* `Entries.ofList` : the map that results from writing a list of entries one after the other.
-/

set_option autoImplicit false

namespace Baseline

/-- The entries of a map. -/
abbrev Entries := List (Value × Value)

namespace Entries

/-- The value at a key. -/
def get? (key : Value) : Entries → Option Value
  | [] => none
  | (k, v) :: rest => if k.equal key then some v else get? key rest

/-- Writes a value at a key: in place when the key is present, else at the end. -/
def put (key value : Value) : Entries → Entries
  | [] => [(key, value)]
  | (k, v) :: rest => if k.equal key then (k, value) :: rest else (k, v) :: put key value rest

/-- The value at a text key. -/
def field? (name : String) (es : Entries) : Option Value := es.get? (.text name)

/-- The entries written one after the other. -/
def ofList (es : Entries) : Entries := es.foldl (fun acc e => acc.put e.1 e.2) []

end Entries

end Baseline
