import Baseline.Fault

/-!
# Positions in a YAML text

A cursor is what is left of a text, with the number of characters before it, its line and its
column.  Line ends are single characters: a carriage return has become a line feed before.

* `Cursor.advance` : the cursor some characters on.
* `Cursor.takeBreak` : the line end at a cursor.
* `endsLine`, `endsField`, `endsWord` : what may stand after an item.
-/

set_option autoImplicit false

namespace Baseline.Yaml

/-- Whether a character ends a line. -/
def isBreak (c : Char) : Bool := c = '\n' || c = '\x85' || c = '\u2028' || c = '\u2029'

/-- Whether a character is one of the listed ones. -/
def isOneOf (listed : String) (c : Char) : Bool := listed.toList.contains c

/-- Whether a line ends here: at a line end or at the end of the text. -/
def endsLine : Option Char → Bool
  | none => true
  | some c => isBreak c

/-- Whether a field ends here: at a space or where the line ends. -/
def endsField : Option Char → Bool
  | some ' ' => true
  | o => endsLine o

/-- Whether a word ends here: at a space or a tab, or where the line ends. -/
def endsWord : Option Char → Bool
  | some '\t' => true
  | o => endsField o

/-- The mark that may stand in front of a text and takes no column. -/
def byteOrderMark : Char := '\ufeff'

/-- A position in a text. -/
structure Cursor where
  rest : List Char
  index : Nat
  line : Nat
  column : Nat
deriving DecidableEq, Repr

namespace Cursor

/-- The start of a text. -/
def start (cs : List Char) : Cursor := ⟨cs, 0, 0, 0⟩

/-- The next character, if there is one. -/
def peek (c : Cursor) : Option Char := c.rest.head?

/-- The character some places on. -/
def peekAt (c : Cursor) (n : Nat) : Option Char := c.rest[n]?

/-- The cursor behind one character. -/
def step (c : Cursor) : Cursor :=
  match c.rest with
  | [] => c
  | ch :: rest =>
    if isBreak ch then ⟨rest, c.index + 1, c.line + 1, 0⟩
    else if ch = byteOrderMark then ⟨rest, c.index + 1, c.line, c.column⟩
    else ⟨rest, c.index + 1, c.line, c.column + 1⟩

/-- The cursor some characters on. -/
def advance : (n : Nat) → Cursor → Cursor
  | 0, c => c
  | n + 1, c => advance n c.step

/-- The characters at a cursor that satisfy a test, and the cursor behind them. -/
def takeWhile (p : Char → Bool) (c : Cursor) : List Char × Cursor :=
  let taken := c.rest.takeWhile p
  (taken, c.advance taken.length)

/-- The cursor behind the characters that satisfy a test. -/
def skipWhile (p : Char → Bool) (c : Cursor) : Cursor := (c.takeWhile p).2

/-- The cursor behind spaces. -/
def skipSpaces (c : Cursor) : Cursor := c.skipWhile (· = ' ')

/-- The cursor where the line ends. -/
def skipLine (c : Cursor) : Cursor := c.skipWhile (!isBreak ·)

/-- The line end at a cursor as it enters a text, and the cursor behind it; nothing where there
is none. -/
def takeBreak (c : Cursor) : List Char × Cursor :=
  match c.peek with
  | some ch =>
    if ch = '\n' ∨ ch = '\x85' then (['\n'], c.step)
    else if isBreak ch then ([ch], c.step)
    else ([], c)
  | none => ([], c)

/-- Whether a marker between documents stands at a cursor. -/
def atDocumentMark (c : Cursor) : Bool :=
  (c.rest.take 3 = ['-', '-', '-'] || c.rest.take 3 = ['.', '.', '.']) && endsWord (c.peekAt 3)

/-- The cursor at the end of the rest of a line that may only hold spaces and a comment. -/
def skipComment (c : Cursor) : Except Fault Cursor :=
  let c := c.skipSpaces
  let c := if c.peek = some '#' then c.skipLine else c
  if endsLine c.peek then .ok c.takeBreak.2 else .error .markup

end Cursor

/-- Folding: a single line feed becomes a space, and of several the first one vanishes. -/
def folded (lineEnd breaks : List Char) : List Char :=
  if lineEnd ≠ ['\n'] then lineEnd ++ breaks
  else if breaks = [] then [' ']
  else breaks

end Baseline.Yaml
