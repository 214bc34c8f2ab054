import Baseline.Json.Reader
import Baseline.Number.Whole
import Baseline.Store.Basic
import Baseline.Text.Utf8

/-!
# Snapshots

A store goes to disk as one JSON object with two maps, the values and the seconds of all keys.

* `Snapshot.toText` : the text of a snapshot.
* `Snapshot.ofBytes` : reads a file back; a refused file reports how many places in it are
  wrong.  Numbers may also be given as truth values or as texts.
* `Store.snapshot`, `Store.ofSnapshot` : the passage between stores and snapshots.  A key that
  lacks its value or its second is an orphan and is dropped.
-/

set_option autoImplicit false

namespace Baseline

/-- The two maps of a store. -/
structure Snapshot where
  data : Table Double
  timestamps : Table Int
deriving DecidableEq, Repr

namespace Snapshot

/-! ## Writing -/

/-- Numbers in a snapshot: positional from `1e-5` up to below `1e16`, exponents unpadded, and
`null` for a number that is not finite. -/
def numberLayout : Layout where
  leastPositional := -5
  firstScientific := 16
  exponentDigits := 1
  nan := "null"
  infinity := "null"
  minusInfinity := "null"

/-- Snapshots are compact, and only what JSON requires is escaped. -/
def style : Json.Style where
  comma := ","
  colon := ":"
  asciiOnly := false
  numbers := numberLayout

/-- The document of a snapshot. -/
def toJson (s : Snapshot) : Json := .object [
  ("Data", .object (s.data.map fun r => (r.1, .float r.2))),
  ("Timestamps", .object (s.timestamps.map fun r => (r.1, .int r.2)))]

/-- The text of a snapshot. -/
def toText (s : Snapshot) : String := s.toJson.render style

/-! ## Reading -/

/-- How deep a snapshot file may be nested. -/
def nestLimit : Nat := 200

/-- Snapshots are read with a limit on the digits of every number, and what is empty may stand at
any depth. -/
def rules : Json.Rules where
  emptyNests := false
  boundsAll := true

/-- The double of a text: a plain numeral between blanks, or one with single underscores
inside. -/
def doubleOfText? (cs : List Char) : Option Double :=
  match Numeral.plainDouble? (Text.trim cs) with
  | some x => some x
  | none => (Numeral.dropGroups? cs).bind Numeral.plainDouble?

/-- The double that a document stands for. -/
def double? : Json → Option Double
  | .bool b => some (if b then .one else .zero)
  | .int n => some ((Double.ofInt? n).getD (.inf (n < 0)))
  | .float x => some x
  | .string s => doubleOfText? s.toList
  | _ => none

/-- The whole second that a document stands for. -/
def second? : Json → Option Int
  | .bool b => some (if b then 1 else 0)
  | .int n => some n
  | .float x => (Whole.ofDouble x).toOption
  | .string s => (Whole.ofText s.toList).toOption
  | _ => none

/-- The rows of a map, or how many of its entries are wrong.  Every repetition of a key is
read, and the last one counts. -/
def rowsOf {α : Type} (read? : Json → Option α) (fields : List (String × Json)) :
    Except Nat (Table α) :=
  let rows := fields.filterMap fun f => (read? f.2).map fun a => (f.1, a)
  if rows.length = fields.length then .ok (Table.ofRows rows)
  else .error (fields.length - rows.length)

/-- The map under a name, or under another name where that one is absent.  A missing map is
empty, and anything but a map is one wrong place. -/
def table {α : Type} (read? : Json → Option α) (name other : String)
    (fields : List (String × Json)) : Except Nat (Table α) :=
  match (Json.lastField? name fields).orElse fun _ => Json.lastField? other fields with
  | none => .ok []
  | some (.object entries) => rowsOf read? entries
  | some _ => .error 1

/-- Reads a document; the wrong places of both maps count together. -/
def ofJson : Json → Except Nat Snapshot
  | .object fields =>
    match table double? "Data" "data" fields, table second? "Timestamps" "timestamps" fields with
    | .ok data, .ok timestamps => .ok ⟨data, timestamps⟩
    | .error m, .ok _ => .error m
    | .ok _, .error n => .error n
    | .error m, .error n => .error (m + n)
  | _ => .error 1

/-- Reads the content of a file; what is no JSON at all is one wrong place. -/
def ofBytes (bytes : List UInt8) : Except Nat Snapshot :=
  match (Text.decodeUtf8? bytes).bind fun s => Json.readBy? rules nestLimit s.toList with
  | some j => ofJson j
  | none => .error 1

/-- The report of a file with wrong places. -/
def refusal (count : Nat) : String :=
  String.ofList (natChars count) ++ " validation error" ++ (if count = 1 then "" else "s") ++
    " for StoreSnapshot"

/-- The keys that are in only one of the two maps, sorted. -/
def orphans (s : Snapshot) : List String :=
  (s.data.keys.filter (fun k => !s.timestamps.keys.contains k) ++
    s.timestamps.keys.filter (fun k => !s.data.keys.contains k)).mergeSort (· ≤ ·)

end Snapshot

namespace Store

/-- The snapshot of a store. -/
def snapshot (s : Store) : Snapshot :=
  ⟨s.rows.map fun r => (r.1, r.2.value), s.rows.map fun r => (r.1, r.2.time)⟩

/-- The store of a snapshot: the keys with both a value and a second, in the order of the
values. -/
def ofSnapshot (s : Snapshot) : Store :=
  ⟨s.data.filterMap fun r => (s.timestamps.get? r.1).map fun t => (r.1, ⟨r.2, t⟩)⟩

end Store

end Baseline
