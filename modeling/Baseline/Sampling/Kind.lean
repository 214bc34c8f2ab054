import Baseline.Failure
import Baseline.Value.Order
import Baseline.Text.Lowercase

/-!
# Finding the kind of a source

* `kindNamed` : the kind with a name, whatever its letter case.
* `resolveKind` : the kind that a definition declares, for the metric that it belongs to.
-/

set_option autoImplicit false

namespace Baseline

/-- The kind with a name in any letter case. -/
def kindNamed (name : Value) : Except Failure SourceKind :=
  match name.text?.bind fun s => SourceKind.ofLabel? (Text.lower s) with
  | some k => .ok k
  | none =>
    match name.plain with
    | .ok plain => .error (.reported (.unknownSourceName name plain))
    | .error f => .error (.fault f)

/-- The kind that a declaration gives: a kind itself, or exactly its label. -/
def resolveKind (metric : String) : Value → Except Failure SourceKind
  | .kind k => .ok k
  | v =>
    match v.text?.bind SourceKind.ofLabel? with
    | some k => .ok k
    | none =>
      match v.shown with
      | .ok shown => .error (.reported (.unknownKind metric shown))
      | .error f => .error (.fault f)

end Baseline
