import Baseline.Value.Entries

/-!
# Laying one map over another

* `Entries.overlay` : every entry of the upper map is written over the lower one; where both
  sides hold a map at a key, these are laid over one another in turn.

The lower keys keep their places, the new ones follow in the order of the upper map.
-/

set_option autoImplicit false

namespace Baseline.Entries

mutual

/-- The lower entries with the upper ones written over them. -/
def overlay (lower : Entries) : (upper : Entries) → Entries
  | [] => lower
  | (k, v) :: rest => overlay (lower.put k (overlayValue (lower.get? k) v)) rest

/-- An upper value over what the lower map holds at its key. -/
def overlayValue (below : Option Value) : (above : Value) → Value
  | .map upper =>
    match below with
    | some (.map lower) => .map (overlay lower upper)
    | _ => .map upper
  | v => v

end

end Baseline.Entries

namespace Baseline

/-- Lays a value over a map; only a map can be laid over one. -/
def overlayOn (lower : Entries) : (upper : Value) → Except Fault Entries
  | .map upper => .ok (lower.overlay upper)
  | v => .error (.noMember v.fullTypeName "items")

end Baseline
