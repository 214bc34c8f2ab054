import Baseline.Value.Number

/-!
# Equality and order of raw values

Numbers of different types are compared by their exact value, texts by code points, lists
item by item.  Two values of unlike sorts are never equal, and asking for their order is a
fault.
-/

set_option autoImplicit false

namespace Baseline

/-- The order relations that can be asked for. -/
inductive Comparison where
  | less
  | lessEqual
  | greater
deriving DecidableEq, Repr

namespace Comparison

/-- How a relation is written. -/
def symbol : Comparison → String
  | less => "<"
  | lessEqual => "<="
  | greater => ">"

/-- The relation on exact quantities; nothing is ordered with NaN. -/
def onQuantities : Comparison → Value.Quantity → Value.Quantity → Bool
  | less, a, b => a.less b
  | lessEqual, a, b => a.less b || a.same b
  | greater, a, b => b.less a

/-- The relation on the outcome of a total comparison. -/
def onOrdering : Comparison → Ordering → Bool
  | less, o => o == .lt
  | lessEqual, o => o != .gt
  | greater, o => o == .gt

end Comparison

namespace Value

/-- The text behind a value that is one. -/
def text? : Value → Option String
  | text s => some s
  | kind k => some k.label
  | _ => none

mutual

/-- Equality of values; a number equals another of the same value. -/
def equal : Value → Value → Bool
  | null, null => true
  | list xs, list ys => equalItems xs ys
  | set xs, set ys => xs.length == ys.length && itemsWithin xs ys
  | map es, map fs => es.length == fs.length && entriesWithin es fs
  | bytes a, bytes b => a == b
  | date a, date b => a == b
  | moment a, moment b => a == b
  | bool a, w => sameQuantity (bool a) w
  | int a, w => sameQuantity (int a) w
  | float a, w => sameQuantity (float a) w
  | decimal a, w => sameQuantity (decimal a) w
  | text a, w => w.text? == some a
  | kind k, w => w.text? == some k.label
  | _, _ => false
where
  /-- Equality of two numbers by their exact values. -/
  sameQuantity (v w : Value) : Bool :=
    match v.quantity?, w.quantity? with
    | some a, some b => a.same b
    | _, _ => false

/-- Equality item by item. -/
def equalItems : List Value → List Value → Bool
  | [], [] => true
  | v :: vs, w :: ws => equal v w && equalItems vs ws
  | _, _ => false

/-- Whether every item equals one of the others. -/
def itemsWithin : List Value → List Value → Bool
  | [], _ => true
  | v :: vs, ws => ws.any (fun w => equal v w) && itemsWithin vs ws

/-- Whether every entry equals one of the others. -/
def entriesWithin : List (Value × Value) → List (Value × Value) → Bool
  | [], _ => true
  | (k, v) :: es, fs => fs.any (fun f => equal k f.1 && equal v f.2) && entriesWithin es fs

end

/-- Whether a value can be the key of a map. -/
def isHashable : Value → Bool
  | list _ => false
  | set _ => false
  | map _ => false
  | _ => true

/-- Whether a value is a decimal. -/
def isDecimal : Value → Bool
  | decimal _ => true
  | _ => false

mutual

/-- Whether the relation holds between two values, if they have an order. -/
def relates (op : Comparison) : Value → Value → Except Fault Bool
  | list xs, list ys => relatesItems op xs ys
  | bytes a, bytes b => .ok (op.onOrdering (compare (a.map UInt8.toNat) (b.map UInt8.toNat)))
  | bool a, w => byQuantity op (bool a) w
  | int a, w => byQuantity op (int a) w
  | float a, w => byQuantity op (float a) w
  | decimal a, w => byQuantity op (decimal a) w
  | text a, w => byText op (text a) w
  | kind a, w => byText op (kind a) w
  | v, w => .error (.unordered op.symbol v.fullTypeName w.fullTypeName)
where
  /-- The relation between two numbers; a decimal is not compared with NaN. -/
  byQuantity (op : Comparison) (v w : Value) : Except Fault Bool :=
    match v.quantity?, w.quantity? with
    | some a, some b =>
      if (v.isDecimal || w.isDecimal) && (a.isNan || b.isNan) then .error .invalidComparison
      else .ok (op.onQuantities a b)
    | _, _ => .error (.unordered op.symbol v.fullTypeName w.fullTypeName)
  /-- The relation between two texts. -/
  byText (op : Comparison) (v w : Value) : Except Fault Bool :=
    match v.text?, w.text? with
    | some a, some b => .ok (op.onOrdering (compare a b))
    | _, _ => .error (.unordered op.symbol v.fullTypeName w.fullTypeName)

/-- The relation between lists: their first unequal items decide, then their lengths. -/
def relatesItems (op : Comparison) : List Value → List Value → Except Fault Bool
  | [], [] => .ok (op.onOrdering .eq)
  | [], _ :: _ => .ok (op.onOrdering .lt)
  | _ :: _, [] => .ok (op.onOrdering .gt)
  | v :: vs, w :: ws => if equal v w then relatesItems op vs ws else relates op v w

end

end Value

end Baseline
