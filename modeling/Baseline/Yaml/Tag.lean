import Baseline.Json.Reader
import Baseline.Number.Numeral
import Baseline.Text.Utf8
import Baseline.Yaml.Token

/-!
# Anchors, tags and directives

* `anchorName` : the name of an anchor or of a reference to one.
* `tagName` : a tag, with a handle or between angle brackets.
* `directive` : a line that starts with a percent sign.
-/

set_option autoImplicit false

namespace Baseline.Yaml

/-- Whether a character may be part of a name. -/
def isNameChar (c : Char) : Bool := c.isAlphanum || c = '-' || c = '_'

/-- The name behind the indicator at a cursor. -/
def anchorName (c : Cursor) : Except Fault (String × Cursor) :=
  let (name, c) := c.step.takeWhile isNameChar
  let ends := endsWord c.peek || (match c.peek with
    | some ch => isOneOf "?:,]\x7d%@\x60" ch
    | none => false)
  if name ≠ [] ∧ ends then .ok (String.ofList name, c) else .error .markup

/-! ## Tags -/

/-- Whether a character may be part of an address. -/
def isAddressChar (c : Char) : Bool := c.isAlphanum || isOneOf "-;/?:@&=+$,_.!~*'()[]" c

/-- The bytes of the percent escapes at a cursor; `fuel` bounds their number. -/
def escapedBytes : (fuel : Nat) → Cursor → Except Fault (List UInt8 × Cursor)
  | 0, _ => .error .markup
  | fuel + 1, c =>
    match c.rest with
    | '%' :: a :: b :: _ =>
      match Json.hexValue? a, Json.hexValue? b with
      | some a, some b => do
        let (more, c) ← escapedBytes fuel (c.advance 3)
        return (UInt8.ofNat (16 * a + b) :: more, c)
      | _, _ => .error .markup
    | '%' :: _ => .error .markup
    | _ => .ok ([], c)

/-- The characters of an address, escapes resolved; `fuel` bounds the number of runs. -/
def addressChars : (fuel : Nat) → Cursor → Except Fault (List Char × Cursor)
  | 0, _ => .error .markup
  | fuel + 1, c =>
    let (run, c) := c.takeWhile isAddressChar
    if c.peek = some '%' then do
      let (bytes, c) ← escapedBytes (c.rest.length + 1) c
      match Text.decodeUtf8? bytes with
      | none => throw .markup
      | some text =>
        let (more, c) ← addressChars fuel c
        return (run ++ text.toList ++ more, c)
    else .ok (run, c)

/-- The address at a cursor. -/
def address (c : Cursor) : Except Fault (String × Cursor) := do
  let (cs, after) ← addressChars (c.rest.length + 1) c
  if after.index = c.index then throw .markup
  return (String.ofList cs, after)

/-- The handle at a cursor: an exclamation mark, or a name between two. -/
def tagHandle (c : Cursor) : Except Fault (String × Cursor) :=
  if c.peek ≠ some '!' then .error .markup
  else if c.peekAt 1 = some ' ' then .ok ("!", c.step)
  else
    let (name, after) := c.step.takeWhile isNameChar
    if after.peek = some '!' then .ok (String.ofList ('!' :: name ++ ['!']), after.step)
    else .error .markup

/-- Whether a second exclamation mark comes before the end of the field. -/
def hasHandle (c : Cursor) : Bool :=
  (c.step.rest.takeWhile fun ch => !endsField (some ch)).contains '!'

/-- The tag at a cursor, up to its last character. -/
def tagBody (c : Cursor) : Except Fault (TagName × Cursor) := do
  if c.peekAt 1 = some '<' then
    let (suffix, c) ← address (c.advance 2)
    if c.peek = some '>' then return (⟨none, suffix⟩, c.step) else throw .markup
  else if endsWord (c.peekAt 1) then return (⟨none, "!"⟩, c.step)
  else
    let (handle, c) ← if hasHandle c then tagHandle c else pure ("!", c.step)
    let (suffix, c) ← address c
    return (⟨some handle, suffix⟩, c)

/-- The tag at a cursor. -/
def tagName (c : Cursor) : Except Fault (TagName × Cursor) := do
  let (t, c) ← tagBody c
  if endsField c.peek then return (t, c) else throw .markup

/-! ## Directives -/

/-- The number at a cursor. -/
def versionNumber (c : Cursor) : Except Fault (Nat × Cursor) :=
  let (digits, c) := c.takeWhile Numeral.isDigit
  if digits = [] then .error .markup else .ok (Numeral.natOfDigits digits, c)

/-- The two numbers of a version. -/
def versionDirective (c : Cursor) : Except Fault (Directive × Cursor) := do
  let (major, c) ← versionNumber c.skipSpaces
  if c.peek ≠ some '.' then throw .markup
  let (minor, c) ← versionNumber c.step
  if endsField c.peek then return (.version major minor, c) else throw .markup

/-- A handle and what it stands for. -/
def handleDirective (c : Cursor) : Except Fault (Directive × Cursor) := do
  let (name, c) ← tagHandle c.skipSpaces
  if c.peek ≠ some ' ' then throw .markup
  let (meaning, c) ← address c.skipSpaces
  if endsField c.peek then return (.handle name meaning, c) else throw .markup

/-- The directive at a cursor, with the rest of its line. -/
def directive (c : Cursor) : Except Fault (Directive × Cursor) := do
  let (name, c) := c.step.takeWhile isNameChar
  if name = [] ∨ !endsField c.peek then throw .markup
  let (d, c) ←
    if name = "YAML".toList then versionDirective c
    else if name = "TAG".toList then handleDirective c
    else pure (.other, c.skipLine)
  let c ← c.skipComment
  return (d, c)

end Baseline.Yaml
