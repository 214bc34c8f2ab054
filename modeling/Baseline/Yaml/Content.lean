import Baseline.Value.Entries
import Baseline.Yaml.Node
import Baseline.Yaml.Scalar
import Baseline.Yaml.Stream

/-!
# The content of a YAML text

* `Node.content` : the value of a node.
* `load` : the value of a text; a text without content is an empty map.

The value of a node is refused when a tag does not fit its content or a key cannot be a key.
Of several faults the one at the lowest depth is reported, and of those the first.
-/

set_option autoImplicit false

namespace Baseline.Yaml

/-! ## Merging -/

namespace Node

/-- Whether a key asks for the entries of other mappings. -/
def isMergeKey (k : Node) : Bool := k.kind = .merge

mutual

/-- The entries of a mapping in which the merged ones come first. -/
def mergedEntries (es : List (Node × Node)) : Except Fault (List (Node × Node)) := do
  let imported ← importedEntries es
  let own := es.filter fun e => !e.1.isMergeKey
  return imported ++ own.map fun e => (if e.1.kind = .value then e.1.withKind .text else e.1, e.2)

/-- The entries that the merge keys of a mapping bring in. -/
def importedEntries : List (Node × Node) → Except Fault (List (Node × Node))
  | [] => return []
  | (k, v) :: rest => do
    let here ← if k.isMergeKey then sourceEntries v else pure []
    return here ++ (← importedEntries rest)

/-- The entries of what a merge key names: a mapping, or several with the later ones in
front.  A collection brings nothing into itself. -/
def sourceEntries : Node → Except Fault (List (Node × Node))
  | mapping _ es => mergedEntries es
  | sequence _ items => itemEntries items
  | within _ _ => return []
  | scalar _ _ => .error .markup

/-- The entries of some mappings, the later ones in front. -/
def itemEntries : List Node → Except Fault (List (Node × Node))
  | [] => return []
  | mapping _ es :: rest => do
    let here ← mergedEntries es
    return (← itemEntries rest) ++ here
  | within _ (mapping _ _) :: rest => itemEntries rest
  | _ :: _ => .error .markup

end

/-! ## Faults by depth -/

/-- A part of a content, or a fault with the depth where it was found. -/
abbrev Built (α : Type) := Except (Nat × Fault) α

namespace Built

/-- Two parts together.  Of two faults the one at the lower depth counts, the first one when
they are equally deep. -/
def both {α β : Type} : Built α → Built β → Built (α × β)
  | .ok a, .ok b => .ok (a, b)
  | .ok _, .error f => .error f
  | .error e, .ok _ => .error e
  | .error e, .error f => .error (if f.1 < e.1 then f else e)

/-- Several parts together. -/
def all {α : Type} : List (Built α) → Built (List α)
  | [] => .ok []
  | part :: rest => (both part (all rest)).map fun p => p.1 :: p.2

/-- What was found at a depth. -/
def atDepth {α : Type} (depth : Nat) (found : Except Fault α) : Built α :=
  found.mapError fun f => (depth, f)

/-- A key: what cannot be one is refused as soon as it comes. -/
def asKey (depth : Nat) : Built Value → Built Value
  | .ok v => if v.isHashable then .ok v else .error (depth, .markup)
  | .error e => .error (if depth < e.1 then (depth, .markup) else e)

end Built

/-! ## Values -/

mutual

/-- How many levels of sequences and mappings a node has. -/
def height : Node → Nat
  | scalar _ _ => 0
  | sequence _ items => heightOfItems items + 1
  | mapping _ es => heightOfEntries es + 1
  | within _ start => height start

/-- The height of the highest of some nodes. -/
def heightOfItems : List Node → Nat
  | [] => 0
  | n :: rest => max n.height (heightOfItems rest)

/-- The height of the highest node in some entries. -/
def heightOfEntries : List (Node × Node) → Nat
  | [] => 0
  | (k, v) :: rest => max (max k.height v.height) (heightOfEntries rest)

end

mutual

/-- The text of a scalar; a mapping may name one with the key `=`.  A mapping that names itself names
no text, and the search for it does not end. -/
def scalarText : Node → Except Fault String
  | scalar _ text => .ok text
  | sequence _ _ => .error .markup
  | mapping _ es => namedText es
  | within _ _ => .error .nodesTooDeep

/-- The text that the key `=` names in some entries. -/
def namedText : List (Node × Node) → Except Fault String
  | [] => .error .markup
  | (k, v) :: rest => if k.kind = .value then scalarText v else namedText rest

end

/-- The date or the moment of a node, which has to be a scalar itself. -/
def timestamp (n : Node) : Except Fault Value := do
  let text ← n.scalarText
  match n with
  | scalar _ _ => Scalar.timestamp text
  | _ => throw (.notText "list")

/-- The value of a scalar, if the node has the kind of one. -/
def scalarValue? (n : Node) : Option (Except Fault Value) :=
  match n.kind with
  | .null => some (n.scalarText.map fun _ => .null)
  | .bool => some (n.scalarText.bind Scalar.bool)
  | .int => some (n.scalarText.bind Scalar.int)
  | .float => some (n.scalarText.bind Scalar.float)
  | .binary => some (n.scalarText.bind Scalar.binary)
  | .timestamp => some n.timestamp
  | .text => some (n.scalarText.map .text)
  | .merge | .value | .unknown => some (.error .markup)
  | .ordered | .pairs | .set | .sequence | .mapping => none

/-- The value of a node that lies at a depth.  The content of a collection lies one level
deeper, and so do the faults of its form.  `fuel` bounds the height. -/
def build : (fuel depth : Nat) → Node → Built Value
  | 0, depth, _ => .error (depth, .markup)
  | fuel + 1, depth, n =>
    let inner := depth + 1
    let entries (es : List (Node × Node)) : Built (List (Value × Value)) :=
      match mergedEntries es with
      | .error f => .error (inner, f)
      | .ok es => Built.all (es.map fun e =>
          Built.both ((build fuel inner e.1).asKey inner) (build fuel inner e.2))
    let pair : Node → Built Value
      | mapping _ [(k, v)] =>
        (Built.both (build fuel inner k) (build fuel inner v)).map fun p => .list [p.1, p.2]
      | within _ (mapping _ _) => .ok (.list [])
      | _ => .error (inner, .markup)
    match n.scalarValue?, n.kind, n.opened with
    | some found, _, _ => Built.atDepth depth found
    | none, .sequence, sequence _ items =>
      (Built.all (items.map (build fuel inner))).map .list
    | none, .ordered, sequence _ items => (Built.all (items.map pair)).map .list
    | none, .pairs, sequence _ items => (Built.all (items.map pair)).map .list
    | none, .mapping, mapping _ es => (entries es).map fun es => .map (Entries.ofList es)
    | none, .set, mapping _ es =>
      (entries es).map fun es => .set ((Entries.ofList es).map Prod.fst)
    | none, _, _ => .error (inner, .markup)

/-- The value of a node. -/
def content (n : Node) : Except Fault Value :=
  (n.build (n.height + 1) 0).mapError Prod.snd

end Node

/-- The value of a text.  One that does not count as present is an empty map, and so is a text
without a document. -/
def load (text : String) : Except Fault Value := do
  match ← document (tokens (← characters text)) with
  | none => return .map []
  | some n =>
    let v ← n.content
    return if v.isTruthy then v else .map []

end Baseline.Yaml
