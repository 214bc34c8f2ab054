import Baseline.Yaml.Layout

/-!
# The characters of a YAML text

* `unifyLineEnds` : a carriage return, alone or before a line feed, becomes a line feed.
* `Yaml.characters` : the characters of a text, unless one is not admitted.
-/

set_option autoImplicit false

namespace Baseline.Yaml

/-- Every line end that has a carriage return as a line feed. -/
def unifyLineEnds : List Char → List Char
  | '\r' :: '\n' :: rest => '\n' :: unifyLineEnds rest
  | c :: rest => (if c = '\r' then '\n' else c) :: unifyLineEnds rest
  | [] => []

/-- Whether a character may stand in a text: the control characters are left out, except for
tabs and line ends. -/
def isAdmitted (c : Char) : Bool :=
  let n := c.toNat
  n = 9 || n = 10 || n = 13 || (0x20 ≤ n && n ≤ 0x7e) || n = 0x85 || (0xa0 ≤ n && n ≤ 0xfffd) ||
    0x10000 ≤ n

/-- The characters of a text. -/
def characters (text : String) : Except Fault (List Char) :=
  let cs := unifyLineEnds text.toList
  if cs.all isAdmitted then .ok cs else .error .markup

end Baseline.Yaml
