import Baseline.Number.Decimal
import Baseline.SourceKind
import Baseline.Fault

/-!
# Raw values

A collector hands over whatever it observed: numbers, texts, bytes, lists and maps of those.
This module holds their type, the names of their types, and the two ways of writing them out:
`Value.shown` for display inside messages and `Value.text` as plain text.

Both can fail: a whole number longer than the digit limit and a nesting beyond `nestLimit` are
refused.
-/

set_option autoImplicit false

namespace Baseline

/-- A value as observed or configured.  A map keeps the order in which its keys came. -/
inductive Value where
  | null
  | bool (b : Bool)
  | int (n : Int)
  | float (x : Double)
  | text (s : String)
  | bytes (bs : List UInt8)
  | decimal (d : Decimal)
  | kind (k : SourceKind)
  | date (iso : String)
  | moment (iso : String)
  | list (xs : List Value)
  | set (xs : List Value)
  | map (entries : List (Value × Value))

namespace Value

instance : Inhabited Value := ⟨null⟩

/-- The short name of a value's type. -/
def typeName : Value → String
  | null => "NoneType"
  | bool _ => "bool"
  | int _ => "int"
  | float _ => "float"
  | text _ => "str"
  | bytes _ => "bytes"
  | decimal _ => "Decimal"
  | kind _ => "SourceType"
  | date _ => "date"
  | moment _ => "datetime"
  | list _ => "list"
  | set _ => "set"
  | map _ => "dict"

/-- The full name of a value's type, with the module for the types that have one. -/
def fullTypeName : Value → String
  | decimal _ => "decimal.Decimal"
  | date _ => "datetime.date"
  | moment _ => "datetime.datetime"
  | v => v.typeName

/-- A map with text keys. -/
def ofFields (fields : List (String × Value)) : Value :=
  map (fields.map fun f => (text f.1, f.2))

/-- Whether a value counts as present: the empty ones, zero and null do not. -/
def isTruthy : Value → Bool
  | null => false
  | bool b => b
  | int n => n != 0
  | float x => !x.isZero
  | text s => s != ""
  | bytes bs => !bs.isEmpty
  | decimal (.finite _ coeff _) => coeff != 0
  | decimal _ => true
  | kind _ => true
  | date _ => true
  | moment _ => true
  | list xs => !xs.isEmpty
  | set xs => !xs.isEmpty
  | map es => !es.isEmpty

/-! ## Display -/

/-- Numbers shown to people: positional from `1e-4` up to below `1e16`. -/
def numberLayout : Layout where
  leastPositional := -4
  firstScientific := 16
  exponentDigits := 2
  nan := "nan"
  infinity := "inf"
  minusInfinity := "-inf"

/-- The text of a double. -/
def doubleText (x : Double) : String := String.ofList (numberLayout.render x)

/-- The text of an integer, within the digit limit. -/
def intText (n : Int) : Except Fault String :=
  if Nat.pow 10 Numeral.digitLimit ≤ n.natAbs then .error .integerTooLong
  else .ok (String.ofList (intChars n))

/-- How deep lists and maps may be nested when they are written out. -/
def nestLimit : Nat := 985

/-- The texts of the entries, in order, with a separator between them. -/
def separated (texts : List String) : String := String.intercalate ", " texts

mutual

/-- The display of a value inside `depth` levels of lists and maps. -/
def shownAt (depth : Nat) : Value → Except Fault String
  | null => .ok "None"
  | bool b => .ok (if b then "True" else "False")
  | int n => intText n
  | float x => .ok (doubleText x)
  | text s => .ok (Text.quoted s)
  | bytes bs => .ok (Text.quotedBytes bs)
  | decimal d => .ok ("Decimal(" ++ Text.quoted d.text ++ ")")
  | kind k => .ok ("<SourceType." ++ k.constant ++ ": " ++ Text.quoted k.label ++ ">")
  | date iso => .ok iso
  | moment iso => .ok iso
  | list xs =>
    if nestLimit ≤ depth then .error .nestedTooDeep
    else do
      let texts ← shownItems (depth + 1) xs
      return "[" ++ separated texts ++ "]"
  | set xs =>
    if nestLimit ≤ depth then .error .nestedTooDeep
    else do
      let texts ← shownItems (depth + 1) xs
      return if texts.isEmpty then "set()" else "\x7b" ++ separated texts ++ "\x7d"
  | map es =>
    if nestLimit ≤ depth then .error .nestedTooDeep
    else do
      let texts ← shownEntries (depth + 1) es
      return "\x7b" ++ separated texts ++ "\x7d"

/-- The displays of the items of a list. -/
def shownItems (depth : Nat) : List Value → Except Fault (List String)
  | [] => .ok []
  | v :: rest => do
    let t ← shownAt depth v
    let ts ← shownItems depth rest
    return t :: ts

/-- The displays of the entries of a map. -/
def shownEntries (depth : Nat) : List (Value × Value) → Except Fault (List String)
  | [] => .ok []
  | (k, v) :: rest => do
    let kt ← shownAt depth k
    let vt ← shownAt depth v
    let ts ← shownEntries depth rest
    return (kt ++ ": " ++ vt) :: ts

end

/-- The display of a value inside a message. -/
def shown (v : Value) : Except Fault String := v.shownAt 0

/-- The plain text of a value: texts stand for themselves. -/
def plain : Value → Except Fault String
  | text s => .ok s
  | decimal d => .ok d.text
  | kind k => .ok ("SourceType." ++ k.constant)
  | v => v.shown

end Value

end Baseline
