import Baseline.Number.Numeral
import Baseline.Yaml.Cursor

/-!
# Block scalars

A block scalar is introduced by a bar, when its line ends are kept, or by an angle, when they
are folded.  Its header may give the indentation and tell what becomes of the line ends at its
end: a plus keeps them all, a minus keeps none, and otherwise one is kept.

* `blockScalar` : the text of a block scalar, and the cursor behind it.
-/

set_option autoImplicit false

namespace Baseline.Yaml

/-- What becomes of the line ends at the end. -/
inductive Chomping where
  | clip
  | strip
  | keep
deriving DecidableEq, Repr

/-- The header of a block scalar. -/
structure BlockHeader where
  chomping : Chomping
  indent : Option Nat
deriving DecidableEq, Repr

/-- The chomping sign at a cursor, if there is one. -/
def takeChomping (c : Cursor) : Chomping × Cursor :=
  match c.peek with
  | some '+' => (.keep, c.step)
  | some '-' => (.strip, c.step)
  | _ => (.clip, c)

/-- The indentation digit at a cursor, if there is one; it must not be zero. -/
def takeIndent (c : Cursor) : Except Fault (Option Nat × Cursor) :=
  match c.peek with
  | some ch =>
    if ch = '0' then .error .markup
    else if Numeral.isDigit ch then .ok (some (ch.toNat - 48), c.step)
    else .ok (none, c)
  | none => .ok (none, c)

/-- The header at a cursor: sign and digit in either order. -/
def blockHeader (c : Cursor) : Except Fault (BlockHeader × Cursor) := do
  let (chomping, c) := takeChomping c
  let (indent, c) ← takeIndent c
  let (chomping, c) := if chomping = .clip ∧ indent.isSome then takeChomping c else (chomping, c)
  if endsField c.peek then return (⟨chomping, indent⟩, c) else throw .markup

/-- The empty lines in front of the content, and the widest indentation among them; `fuel`
bounds the number of characters. -/
def leadingBreaks (widest : Nat) : (fuel : Nat) → Cursor → List Char × Nat × Cursor
  | 0, c => ([], widest, c)
  | fuel + 1, c =>
    let c := c.skipSpaces
    let widest := max widest c.column
    match c.takeBreak with
    | ([], c) => ([], widest, c)
    | (lineEnd, c) =>
      let (more, widest, c) := leadingBreaks widest fuel c
      (lineEnd ++ more, widest, c)

/-- The cursor behind at most so many spaces that lead to a column; `fuel` bounds them. -/
def skipIndent (indent : Nat) : (fuel : Nat) → Cursor → Cursor
  | 0, c => c
  | fuel + 1, c =>
    if c.column < indent ∧ c.peek = some ' ' then skipIndent indent fuel c.step else c

/-- The empty lines between lines of content, and the cursor at the indentation of the next
line; `fuel` bounds their number. -/
def blockBreaks (indent : Nat) : (fuel : Nat) → Cursor → List Char × Cursor
  | 0, c => ([], c)
  | fuel + 1, c =>
    match (skipIndent indent indent c).takeBreak with
    | ([], c) => ([], c)
    | (lineEnd, c) =>
      let (more, c) := blockBreaks indent fuel c
      (lineEnd ++ more, c)

/-- Whether a line of content starts with a space or a tab. -/
def startsBlank (c : Cursor) : Bool := c.peek = some ' ' || c.peek = some '\t'

/-- Whether there is content at an indentation. -/
def atContent (indent : Nat) (c : Cursor) : Bool := c.column = indent && c.peek.isSome

/-- What stands between two lines of content.  A folded line end between two lines that do not
start blank becomes a space, unless empty lines follow it. -/
def lineJoint (folds : Bool) (lineEnd breaks : List Char) (blank nextBlank : Bool) : List Char :=
  if folds ∧ lineEnd = ['\n'] ∧ ¬ blank ∧ ¬ nextBlank then
    (if breaks = [] then [' '] else []) ++ breaks
  else lineEnd ++ breaks

/-- The content of a block scalar: its text without the last line end, that line end, and the
empty lines after it. -/
structure BlockContent where
  text : List Char
  lineEnd : List Char
  breaks : List Char
  cursor : Cursor

/-- Reads the lines of content; `fuel` bounds their number. -/
def blockLines (folds : Bool) (indent : Nat) : (fuel : Nat) → Cursor → BlockContent
  | 0, c => ⟨[], [], [], c⟩
  | fuel + 1, c =>
    let (line, after) := c.takeWhile (!isBreak ·)
    let (lineEnd, after) := after.takeBreak
    let (breaks, after) := blockBreaks indent (after.rest.length + 1) after
    if atContent indent after then
      let more := blockLines folds indent fuel after
      { more with
        text := line ++ lineJoint folds lineEnd breaks (startsBlank c) (startsBlank after) ++
          more.text }
    else ⟨line, lineEnd, breaks, after⟩

/-- The end of a block scalar as its header wants it. -/
def chomped (chomping : Chomping) (lineEnd breaks : List Char) : List Char :=
  match chomping with
  | .strip => []
  | .clip => lineEnd
  | .keep => lineEnd ++ breaks

/-- The block scalar at a cursor inside a block of an indentation. -/
def blockScalar (folds : Bool) (outer : Int) (c : Cursor) : Except Fault (String × Cursor) := do
  let (header, c) ← blockHeader c.step
  let c ← c.skipComment
  let least := max (outer + 1).toNat 1
  let (breaks, indent, c) := match header.indent with
    | some n =>
      let indent := least + n - 1
      let (breaks, c) := blockBreaks indent (c.rest.length + 1) c
      (breaks, indent, c)
    | none =>
      let (breaks, widest, c) := leadingBreaks 0 (c.rest.length + 1) c
      (breaks, max least widest, c)
  if atContent indent c then
    let content := blockLines folds indent (c.rest.length + 1) c
    return (String.ofList (breaks ++ content.text ++
      chomped header.chomping content.lineEnd content.breaks), content.cursor)
  else return (String.ofList (chomped header.chomping [] breaks), c)

end Baseline.Yaml
