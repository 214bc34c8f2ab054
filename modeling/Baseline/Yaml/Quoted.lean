import Baseline.Json.Reader
import Baseline.Yaml.Cursor

/-!
# Quoted scalars

Between single quotes a doubled quote stands for one; between double quotes a backslash
introduces an escape.  Line ends are folded, and the spaces around them vanish.

* `quotedScalar` : the text between quotes, and the cursor behind it.
-/

set_option autoImplicit false

namespace Baseline.Yaml

/-- The character of a one-letter escape. -/
def letterEscape? (c : Char) : Option Char :=
  match c with
  | '0' => some '\x00'
  | 'a' => some '\x07'
  | 'b' => some '\x08'
  | 't' => some '\t'
  | '\t' => some '\t'
  | 'n' => some '\n'
  | 'v' => some '\x0b'
  | 'f' => some '\x0c'
  | 'r' => some '\r'
  | 'e' => some '\x1b'
  | ' ' => some ' '
  | '"' => some '"'
  | '\\' => some '\\'
  | '/' => some '/'
  | 'N' => some '\x85'
  | '_' => some '\xa0'
  | 'L' => some '\u2028'
  | 'P' => some '\u2029'
  | _ => none

/-- How many hexadecimal digits follow the letter of a numeric escape. -/
def codeLength? (c : Char) : Option Nat :=
  match c with
  | 'x' => some 2
  | 'u' => some 4
  | 'U' => some 8
  | _ => none

/-- The number that hexadecimal digits denote. -/
def hexNumber? (ds : List Char) : Option Nat :=
  ds.foldlM (fun n d => (Json.hexValue? d).map (16 * n + ·)) 0

/-- The character with a code.  Half of a pair of code units is no character; it is kept as a stand-in
of its own, in the last plane for private use. -/
def charOfCode (code : Nat) : Char :=
  if 0xd800 ≤ code ∧ code < 0xe000 then Char.ofNat (code + 0x102000) else Char.ofNat code

/-- A numeric escape of a length at a cursor. -/
def codeEscape (length : Nat) (c : Cursor) : Except Fault (Char × Cursor) :=
  let digits := c.rest.take length
  match hexNumber? digits with
  | none => .error .markup
  | some code =>
    if digits.length < length then .error .markup
    else if 0x110000 ≤ code then .error (.codePointTooLarge code)
    else .ok (charOfCode code, c.advance length)

/-- The line ends in front of the next line with content, where no new document may start;
`fuel` bounds their number. -/
def quotedBreaks : (fuel : Nat) → Cursor → Except Fault (List Char × Cursor)
  | 0, _ => .error .markup
  | fuel + 1, c =>
    if c.atDocumentMark then .error .markup
    else
      let c := c.skipWhile fun ch => ch = ' ' || ch = '\t'
      match c.takeBreak with
      | ([], c) => .ok ([], c)
      | (lineEnd, c) => do
        let (more, c) ← quotedBreaks fuel c
        return (lineEnd ++ more, c)

/-- Spaces inside quotes: they stay, or vanish around folded line ends. -/
def quotedSpaces (c : Cursor) : Except Fault (List Char × Cursor) :=
  let (spaces, c) := c.takeWhile fun ch => ch = ' ' || ch = '\t'
  match c.takeBreak with
  | ([], c) => .ok (spaces, c)
  | (lineEnd, c) => do
    let (breaks, c) ← quotedBreaks (c.rest.length + 1) c
    return (folded lineEnd breaks, c)

/-- An escape behind its backslash. -/
def escape (c : Cursor) : Except Fault (List Char × Cursor) :=
  match c.peek with
  | none => .error .markup
  | some ch =>
    match letterEscape? ch, codeLength? ch with
    | some e, _ => .ok ([e], c.step)
    | none, some length => do
      let (e, c) ← codeEscape length c.step
      return ([e], c)
    | none, none =>
      if isBreak ch then quotedBreaks (c.rest.length + 1) c.takeBreak.2
      else .error .markup

/-- The text up to the closing quote, and the cursor behind it; `fuel` bounds its length. -/
def quotedText (quote : Char) : (fuel : Nat) → Cursor → Except Fault (List Char × Cursor)
  | 0, _ => .error .markup
  | fuel + 1, c =>
    match c.peek with
    | none => .error .markup
    | some ch =>
      if ch = quote then
        if quote = '\'' ∧ c.peekAt 1 = some '\'' then do
          let (more, c) ← quotedText quote fuel (c.advance 2)
          return ('\'' :: more, c)
        else .ok ([], c.step)
      else if ch = ' ' ∨ ch = '\t' ∨ isBreak ch then do
        let (spaces, c) ← quotedSpaces c
        let (more, c) ← quotedText quote fuel c
        return (spaces ++ more, c)
      else if ch = '\\' ∧ quote = '"' then do
        let (text, c) ← escape c.step
        let (more, c) ← quotedText quote fuel c
        return (text ++ more, c)
      else do
        let (more, c) ← quotedText quote fuel c.step
        return (ch :: more, c)

/-- The text between the quotes at a cursor, and the cursor behind it. -/
def quotedScalar (quote : Char) (c : Cursor) : Except Fault (String × Cursor) := do
  let (text, c) ← quotedText quote (c.rest.length + 1) c.step
  return (String.ofList text, c)

end Baseline.Yaml
