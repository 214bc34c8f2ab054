import Baseline.Number.Layout
import Baseline.Text.Quoted

/-!
# JSON documents

A document keeps its whole numbers apart from its doubles, and the fields of an object in the
order in which they came, repeated names included.

* `Json.Style` : the decisions of one written form — separators, escapes, layout of doubles.
* `Json.render` : the text of a document in a style.
-/

set_option autoImplicit false

namespace Baseline

/-- A JSON document. -/
inductive Json where
  | null
  | bool (b : Bool)
  | int (n : Int)
  | float (x : Double)
  | string (s : String)
  | array (items : List Json)
  | object (fields : List (String × Json))

namespace Json

instance : Inhabited Json := ⟨null⟩

/-- The decisions of one written form of documents. -/
structure Style where
  /-- What stands between two items. -/
  comma : String
  /-- What stands between a name and its value. -/
  colon : String
  /-- Whether every character beyond printable ASCII is escaped. -/
  asciiOnly : Bool
  /-- How doubles are laid out. -/
  numbers : Layout

/-- A code unit as a four-digit escape. -/
def unitEscape (n : Nat) : List Char := '\\' :: 'u' :: Text.hexDigits 4 n

/-- A code point as one escape, or as the two escapes of its surrogate pair. -/
def pointEscape (n : Nat) : List Char :=
  if n < 0x10000 then unitEscape n
  else unitEscape (0xd800 + (n - 0x10000) / 0x400) ++ unitEscape (0xdc00 + (n - 0x10000) % 0x400)

/-- One character inside a string. -/
def stringChar (asciiOnly : Bool) (c : Char) : List Char :=
  if c = '"' then ['\\', '"']
  else if c = '\\' then ['\\', '\\']
  else if c = '\n' then ['\\', 'n']
  else if c = '\r' then ['\\', 'r']
  else if c = '\t' then ['\\', 't']
  else if c = '\x08' then ['\\', 'b']
  else if c = '\x0c' then ['\\', 'f']
  else if c.toNat < 0x20 ∨ (asciiOnly ∧ 0x7e < c.toNat) then pointEscape c.toNat
  else [c]

/-- A string between its quotes. -/
def stringChars (asciiOnly : Bool) (s : String) : List Char :=
  '"' :: s.toList.flatMap (stringChar asciiOnly) ++ ['"']

mutual

/-- The characters of a document in a style. -/
def renderChars (style : Style) : Json → List Char
  | null => "null".toList
  | bool b => (if b then "true" else "false").toList
  | int n => intChars n
  | float x => style.numbers.render x
  | string s => stringChars style.asciiOnly s
  | array items => '[' :: renderItems style items ++ [']']
  | object fields => '\x7b' :: renderFields style fields ++ ['\x7d']

/-- The items of an array, separated. -/
def renderItems (style : Style) : List Json → List Char
  | [] => []
  | [j] => renderChars style j
  | j :: rest => renderChars style j ++ style.comma.toList ++ renderItems style rest

/-- The fields of an object, separated. -/
def renderFields (style : Style) : List (String × Json) → List Char
  | [] => []
  | [(name, j)] => stringChars style.asciiOnly name ++ style.colon.toList ++ renderChars style j
  | (name, j) :: rest =>
    stringChars style.asciiOnly name ++ style.colon.toList ++ renderChars style j ++
      style.comma.toList ++ renderFields style rest

end

/-- The text of a document in a style. -/
def render (style : Style) (j : Json) : String := String.ofList (renderChars style j)

/-- The value of the last field with a name. -/
def lastField? (name : String) (fields : List (String × Json)) : Option Json :=
  (fields.reverse.find? (·.1 = name)).map (·.2)

end Json

end Baseline
