import Baseline.Yaml.Cursor

/-!
# Plain scalars

A scalar without quotes ends at a comment, at a colon that makes it a key, at a bracket or a
comma inside brackets, and where a line is indented less than its block.

* `plainScalar` : the text of a plain scalar, and the cursor behind it.
-/

set_option autoImplicit false

namespace Baseline.Yaml

/-- Whether a colon before this character makes a key. -/
def endsKey (inFlow : Bool) (o : Option Char) : Bool :=
  endsWord o || (inFlow && (match o with
    | some c => isOneOf ",[]\x7b\x7d" c
    | none => false))

/-- The characters of a plain scalar up to a space, or up to its end. -/
def plainRun (inFlow : Bool) : List Char → List Char
  | [] => []
  | c :: rest =>
    if endsWord (some c) || (c = ':' && endsKey inFlow rest.head?) ||
        (inFlow && isOneOf ",?[]\x7b\x7d" c) then []
    else c :: plainRun inFlow rest

/-- The line ends in front of the next line with content, or `none` where a document marker
comes first; `fuel` bounds their number. -/
def plainBreaks : (fuel : Nat) → Cursor → Option (List Char) × Cursor
  | 0, c => (none, c)
  | fuel + 1, c =>
    match c.skipSpaces.takeBreak with
    | ([], c) => (some [], c)
    | (lineEnd, c) =>
      if c.atDocumentMark then (none, c)
      else
        let (more, c) := plainBreaks fuel c
        (more.map (lineEnd ++ ·), c)

/-- What separates two runs of a plain scalar: nothing when the scalar ends. -/
structure PlainGap where
  text : List Char
  brokeLine : Bool

/-- The gap at a cursor, and the cursor behind it. -/
def plainGap (c : Cursor) : PlainGap × Cursor :=
  let (spaces, c) := c.takeWhile (· = ' ')
  match c.takeBreak with
  | ([], c) => (⟨spaces, false⟩, c)
  | (lineEnd, c) =>
    if c.atDocumentMark then (⟨[], true⟩, c)
    else
      match plainBreaks (c.rest.length + 1) c with
      | (some breaks, c) => (⟨folded lineEnd breaks, true⟩, c)
      | (none, c) => (⟨[], true⟩, c)

/-- A plain scalar that is being read: its text, the cursor behind it, and whether it was
followed by a line end. -/
structure PlainScalar where
  text : List Char
  cursor : Cursor
  brokeLine : Bool

/-- Reads on behind a gap; `fuel` bounds the number of runs. -/
def plainFrom (inFlow : Bool) (indent : Int) (brokeLine : Bool) (gap : List Char) :
    (fuel : Nat) → Cursor → PlainScalar
  | 0, c => ⟨[], c, brokeLine⟩
  | fuel + 1, c =>
    let run := if c.peek = some '#' then [] else plainRun inFlow c.rest
    if run = [] then ⟨[], c, brokeLine⟩
    else
      let (next, after) := plainGap (c.advance run.length)
      if next.text = [] ∨ after.peek = some '#' ∨ (¬ inFlow ∧ (after.column : Int) < indent) then
        ⟨gap ++ run, after, next.brokeLine⟩
      else
        let more := plainFrom inFlow indent next.brokeLine next.text fuel after
        { more with text := gap ++ run ++ more.text }

/-- The plain scalar at a cursor, for content that has to be indented by `indent`. -/
def plainScalar (inFlow : Bool) (indent : Int) (c : Cursor) : PlainScalar :=
  plainFrom inFlow indent false [] (c.rest.length + 1) c

end Baseline.Yaml
