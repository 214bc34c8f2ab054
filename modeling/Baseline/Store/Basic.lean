import Baseline.Table
import Baseline.Value.Number

/-!
# The store of baselines

A store keeps for every key the last raw sample: its value and the whole second at which it
was taken.

* `Store.get` : the sample at a key, and whether there is one.
* `Store.record` : replaces the sample at a key by a new one, taken now.
* `Store.set` : the same for any raw value that converts to a double.
* `Store.delete`, `Store.keys`, `Store.size`, `Store.contains` : the rest of the table.

Operations that fail return no store: the caller goes on with the one that it has.
-/

set_option autoImplicit false

namespace Baseline

/-- A raw value and the unix second at which it was recorded. -/
structure Sample where
  value : Double
  time : Int
deriving DecidableEq, Repr

/-- The last sample of every key. -/
structure Store where
  rows : Table Sample
deriving DecidableEq, Repr

/-- The whole second of a clock reading. -/
def wholeSecond (now : Double) : Except Fault Int :=
  match now with
  | .nan => .error .nanToInteger
  | .inf _ => .error .infinityToInteger
  | .fin neg m => .ok ((Double.fin neg m).truncate?.getD 0)

namespace Store

/-- The store without samples. -/
def empty : Store := ⟨[]⟩

instance : Inhabited Store := ⟨empty⟩

/-- The sample at a key, if there is one. -/
def sample? (s : Store) (key : String) : Option Sample := s.rows.get? key

/-- Value, time and presence of the sample at a key; an absent one reads as zeros. -/
def get (s : Store) (key : String) : Double × Int × Bool :=
  match s.sample? key with
  | some e => (e.value, e.time, true)
  | none => (.zero, 0, false)

/-- Records a value at a key under the second of a clock reading, which is returned. -/
def record (s : Store) (now : Double) (key : String) (value : Double) :
    Except Fault (Int × Store) :=
  match wholeSecond now with
  | .ok t => .ok (t, ⟨s.rows.put key ⟨value, t⟩⟩)
  | .error f => .error f

/-- Records a raw value.  The clock is read before the value is converted. -/
def set (s : Store) (now : Double) (key : String) (raw : Value) : Except Fault (Int × Store) :=
  match wholeSecond now, raw.toDouble with
  | .ok _, .ok value => s.record now key value
  | .error f, _ => .error f
  | .ok _, .error f => .error f

/-- Forgets a key. -/
def delete (s : Store) (key : String) : Store := ⟨s.rows.erase key⟩

/-- The keys, in the order in which they came. -/
def keys (s : Store) : List String := s.rows.keys

/-- The number of samples. -/
def size (s : Store) : Nat := s.rows.length

/-- Whether there is a sample at a key. -/
def contains (s : Store) (key : String) : Bool := (s.sample? key).isSome

end Store

end Baseline
