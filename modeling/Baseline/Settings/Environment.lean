import Baseline.Value.Entries
import Baseline.Text.Lowercase

/-!
# Settings from the environment

A variable whose name begins with a prefix sets the value at a path: the rest of the name, in
lower case, split at double underscores.  Later variables win.

* `parseSetting` : the value that a variable's text stands for.
* `settingPath` : the path that a name stands for.
* `environmentSettings` : the nested map that an environment describes.
-/

set_option autoImplicit false

namespace Baseline

/-- The prefix of the variables that hold settings. -/
def settingPrefix : String := "COLLECTOR_SDK_"

/-- The value that a text stands for: a truth word, a whole number, a number, or the text
itself. -/
def parseSetting (s : String) : Value :=
  let word := Text.lower s
  if word = "true" ∨ word = "yes" ∨ word = "on" then .bool true
  else if word = "false" ∨ word = "no" ∨ word = "off" then .bool false
  else
    match Numeral.integer? s.toList with
    | some n => .int n
    | none =>
      match Numeral.double? s.toList with
      | some x => .float x
      | none => .text s

/-- The parts of a text between double underscores; `part` holds the current part, reversed. -/
def splitAtDoubleUnderscore (part : List Char) : List Char → List (List Char)
  | [] => [part.reverse]
  | '_' :: '_' :: rest => part.reverse :: splitAtDoubleUnderscore [] rest
  | c :: rest => splitAtDoubleUnderscore (c :: part) rest

/-- The path that a variable name stands for, after its prefix. -/
def settingPath (name : String) : List String :=
  (splitAtDoubleUnderscore [] (Text.lower name).toList).map String.ofList

/-- Writes a value at a path.  A part that leads nowhere, or to something that is no map, leads
to a new map from then on. -/
def Entries.putAt (value : Value) : (path : List String) → Entries → Entries
  | [], es => es
  | [k], es => es.put (.text k) value
  | k :: path, es =>
    let inner : Entries := match es.field? k with
      | some (.map inner) => inner
      | _ => []
    es.put (.text k) (.map (putAt value path inner))

/-- What comes after a prefix, if a text begins with it. -/
def afterPrefix? (lead s : String) : Option String :=
  if lead.toList.isPrefixOf s.toList then some (String.ofList (s.toList.drop lead.toList.length))
  else none

/-- Variables by name, in order. -/
abbrev Environment := List (String × String)

/-- The nested map that the variables with a prefix describe. -/
def environmentSettings (lead : String) (env : Environment) : Entries :=
  env.foldl (fun es var =>
    match afterPrefix? lead var.1 with
    | some name => es.putAt (parseSetting var.2) (settingPath name)
    | none => es) []

end Baseline
