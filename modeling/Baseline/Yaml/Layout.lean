import Baseline.Yaml.Block
import Baseline.Yaml.Plain
import Baseline.Yaml.Quoted
import Baseline.Yaml.Tag

/-!
# The layout of a YAML text

Outside brackets the indentation opens and closes blocks, and a key is recognised only when
its colon comes.  So wherever a key may stand its place is remembered, one place for each depth
of brackets, and the token that introduces a key is put there later.  A place is forgotten when
its line ends or when it lies too far back.

* `Layout` : a text that is being read into tokens.
* `Cut` : the tokens of a text up to its end, or up to the fault behind them.
* `tokens` : cuts a text into tokens.

A fault counts only when the reader comes to it, so the tokens in front of it are kept.
-/

set_option autoImplicit false

namespace Baseline.Yaml

/-- A place where a key may have started: the number of its token, and the position.  A
required key is the only thing that can stand there. -/
structure KeyPlace where
  number : Nat
  required : Bool
  index : Nat
  line : Nat
  column : Nat
deriving DecidableEq, Repr

/-- A text that is being read into tokens, the last token first. -/
structure Layout where
  cursor : Cursor
  flow : Nat
  indent : Int
  outer : List Int
  keyAllowed : Bool
  places : List (Nat × KeyPlace)
  tokens : List Token
  count : Nat

namespace Layout

/-- The layout at the start of a text. -/
def start (cs : List Char) : Layout := ⟨.start cs, 0, -1, [], true, [], [], 0⟩

/-- Whether brackets are open. -/
def inFlow (l : Layout) : Bool := l.flow ≠ 0

/-- The column of the cursor. -/
def column (l : Layout) : Int := l.cursor.column

/-- Adds a token at the end. -/
def push (t : Token) (l : Layout) : Layout :=
  { l with tokens := t :: l.tokens, count := l.count + 1 }

/-- Puts a token where the token with a number was. -/
def insertAt (number : Nat) (t : Token) (l : Layout) : Layout :=
  { l with tokens := l.tokens.insertIdx (l.count - number) t, count := l.count + 1 }

/-! ## Indentation -/

/-- Closes the blocks that are indented deeper than a column, given the outer indentations. -/
def closeBlocks (column : Int) (l : Layout) : (outer : List Int) → Layout
  | [] => l
  | i :: outer =>
    if column < l.indent then
      closeBlocks column (push .blockEnd { l with indent := i, outer := outer }) outer
    else l

/-- Closes the blocks that are indented deeper than a column; inside brackets there is
nothing to close. -/
def unwind (column : Int) (l : Layout) : Layout :=
  if l.inFlow then l else closeBlocks column l l.outer

/-- Opens a block at a column, unless the block there is open already. -/
def openBlock (column : Int) (l : Layout) : Layout × Bool :=
  if l.indent < column then ({ l with indent := column, outer := l.indent :: l.outer }, true)
  else (l, false)

/-! ## Places of keys -/

/-- The furthest that a key may lie back. -/
def keyReach : Nat := 1024

/-- Whether a place is to be forgotten at a cursor. -/
def isStale (c : Cursor) (p : KeyPlace) : Bool :=
  p.line ≠ c.line || decide (keyReach < c.index - p.index)

/-- Forgets the places that lie too far back; a required key must not be among them. -/
def forgetStale (l : Layout) : Except Fault Layout :=
  if l.places.any fun p => isStale l.cursor p.2 && p.2.required then .error .markup
  else .ok { l with places := l.places.filter fun p => !isStale l.cursor p.2 }

/-- Forgets the place at the present depth; a required key must not be there. -/
def forgetPlace (l : Layout) : Except Fault Layout :=
  if l.places.any fun p => p.1 = l.flow && p.2.required then .error .markup
  else .ok { l with places := l.places.filter (·.1 ≠ l.flow) }

/-- Remembers that a key may start at the cursor. -/
def rememberPlace (l : Layout) : Except Fault Layout :=
  if !l.keyAllowed then .ok l
  else do
    let l ← l.forgetPlace
    let place : KeyPlace := {
      number := l.count
      required := !l.inFlow && l.indent = l.column
      index := l.cursor.index
      line := l.cursor.line
      column := l.cursor.column }
    return { l with places := (l.flow, place) :: l.places }

/-! ## Tokens -/

/-- Skips spaces, comments and line ends; outside brackets a key may follow a line end.
`fuel` bounds the number of lines. -/
def skipToToken : (fuel : Nat) → Layout → Layout
  | 0, l => l
  | fuel + 1, l =>
    let c := l.cursor.skipSpaces
    let c := if c.peek = some '#' then c.skipLine else c
    match c.takeBreak with
    | ([], c) => { l with cursor := c }
    | (_, c) => skipToToken fuel { l with cursor := c, keyAllowed := l.keyAllowed || !l.inFlow }

/-- A marker between documents, or a directive, closes all blocks. -/
def closeDocument (l : Layout) : Except Fault Layout := do
  let l ← (l.unwind (-1)).forgetPlace
  return { l with keyAllowed := false }

/-- A marker between documents. -/
def documentMark (t : Token) (l : Layout) : Except Fault Layout := do
  let l ← l.closeDocument
  return { l.push t with cursor := l.cursor.advance 3 }

/-- A line that starts with a percent sign. -/
def directiveLine (l : Layout) : Except Fault Layout := do
  let l ← l.closeDocument
  let (d, c) ← directive l.cursor
  return { l.push (.directive d) with cursor := c }

/-- An opening bracket. -/
def openFlow (t : Token) (l : Layout) : Except Fault Layout := do
  let l ← l.rememberPlace
  return { l.push t with cursor := l.cursor.step, flow := l.flow + 1, keyAllowed := true }

/-- A closing bracket. -/
def closeFlow (t : Token) (l : Layout) : Except Fault Layout := do
  let l ← l.forgetPlace
  if l.flow = 0 then throw .markup
  return { l.push t with cursor := l.cursor.step, flow := l.flow - 1, keyAllowed := false }

/-- A comma inside brackets. -/
def comma (l : Layout) : Except Fault Layout := do
  let l ← l.forgetPlace
  return { l.push .comma with cursor := l.cursor.step, keyAllowed := true }

/-- Opens a block at the cursor for a token that starts one; inside brackets there are no
blocks. -/
def openAt (opening : Token) (l : Layout) : Except Fault Layout :=
  if l.inFlow then .ok l
  else if !l.keyAllowed then .error .markup
  else
    match l.openBlock l.column with
    | (l, true) => .ok (l.push opening)
    | (l, false) => .ok l

/-- A hyphen in front of an item. -/
def item (l : Layout) : Except Fault Layout := do
  let l ← l.openAt .sequenceBlock
  let l ← l.forgetPlace
  return { l.push .item with cursor := l.cursor.step, keyAllowed := true }

/-- A question mark in front of a key. -/
def key (l : Layout) : Except Fault Layout := do
  let l ← l.openAt .mappingBlock
  let l ← l.forgetPlace
  return { l.push .key with cursor := l.cursor.step, keyAllowed := !l.inFlow }

/-- A colon behind a key whose place was remembered. -/
def valueOfPlace (p : KeyPlace) (l : Layout) : Layout :=
  let l := { l with places := l.places.filter (·.1 ≠ l.flow) }
  let l := l.insertAt p.number .key
  if l.inFlow then l
  else
    match l.openBlock p.column with
    | (l, true) => l.insertAt p.number .mappingBlock
    | (l, false) => l

/-- A colon. -/
def value (l : Layout) : Except Fault Layout := do
  match l.places.find? (·.1 = l.flow) with
  | some (_, p) =>
    let l := l.valueOfPlace p
    return { l.push .value with cursor := l.cursor.step, keyAllowed := false }
  | none =>
    let l ← l.openAt .mappingBlock
    let l ← l.forgetPlace
    return { l.push .value with cursor := l.cursor.step, keyAllowed := !l.inFlow }

/-- A token that may be the start of a key, or all of it. -/
def keyable (read : Cursor → Except Fault (Token × Cursor)) (l : Layout) : Except Fault Layout := do
  let l ← l.rememberPlace
  let (t, c) ← read l.cursor
  return { l.push t with cursor := c, keyAllowed := false }

/-- A plain scalar; a key may follow it where it ended with its line. -/
def plain (l : Layout) : Except Fault Layout := do
  let l ← l.rememberPlace
  let s := plainScalar l.inFlow (l.indent + 1) l.cursor
  return { l.push (.scalar (String.ofList s.text) true) with
    cursor := s.cursor, keyAllowed := s.brokeLine }

/-- A block scalar. -/
def block (folds : Bool) (l : Layout) : Except Fault Layout := do
  let l ← l.forgetPlace
  let (text, c) ← blockScalar folds l.indent l.cursor
  return { l.push (.scalar text false) with cursor := c, keyAllowed := true }

/-- Whether a plain scalar may start with a character, given the one after it. -/
def startsPlain (inFlow : Bool) (ch : Char) (next : Option Char) : Bool :=
  !(endsWord (some ch) || isOneOf "-?:,[]\x7b\x7d#&*!|>'\"%@\x60" ch) ||
    (!endsWord next && (ch = '-' || (!inFlow && (ch = '?' || ch = ':'))))

/-- The token that starts with a character. -/
def readToken (ch : Char) (l : Layout) : Except Fault Layout :=
  let next := l.cursor.peekAt 1
  let atMark := l.cursor.column = 0 && l.cursor.atDocumentMark
  if ch = '%' ∧ l.cursor.column = 0 then l.directiveLine
  else if ch = '-' ∧ atMark then l.documentMark .documentStart
  else if ch = '.' ∧ atMark then l.documentMark .documentEnd
  else if ch = '[' then l.openFlow .sequenceOpen
  else if ch = '\x7b' then l.openFlow .mappingOpen
  else if ch = ']' then l.closeFlow .sequenceClose
  else if ch = '\x7d' then l.closeFlow .mappingClose
  else if ch = ',' then l.comma
  else if ch = '-' ∧ endsWord next then l.item
  else if ch = '?' ∧ (l.inFlow ∨ endsWord next) then l.key
  else if ch = ':' ∧ (l.inFlow ∨ endsWord next) then l.value
  else if ch = '*' then l.keyable fun c => (anchorName c).map fun r => (.reference r.1, r.2)
  else if ch = '&' then l.keyable fun c => (anchorName c).map fun r => (.anchor r.1, r.2)
  else if ch = '!' then l.keyable fun c => (tagName c).map fun r => (.tag r.1, r.2)
  else if ch = '|' ∧ ¬ l.inFlow then l.block false
  else if ch = '>' ∧ ¬ l.inFlow then l.block true
  else if ch = '\'' ∨ ch = '"' then
    l.keyable fun c => (quotedScalar ch c).map fun r => (.scalar r.1 false, r.2)
  else if startsPlain l.inFlow ch next then l.plain
  else .error .markup

/-- Reads on behind the next token, and tells whether the text ended instead. -/
def readOn (l : Layout) : Except Fault (Layout × Bool) := do
  let l ← (l.skipToToken (l.cursor.rest.length + 1)).forgetStale
  let l := l.unwind l.column
  match l.cursor.peek with
  | none => return (← (l.unwind (-1)).forgetPlace, true)
  | some ch => return (← l.readToken ch, false)

/-- The tokens that are settled: those that follow could still turn out to belong to a key. -/
def settled (l : Layout) : List Token :=
  let pending := l.places.filter fun p => !isStale l.cursor p.2
  l.tokens.reverse.take (pending.foldl (fun n p => min n p.2.number) l.count)

end Layout

/-- A text cut into tokens: those that were settled, and the fault that stopped the cutting, if one
did. -/
structure Cut where
  tokens : List Token
  fault : Option Fault
deriving DecidableEq, Repr

/-- Cuts up to the end of the text or up to a fault; `fuel` bounds the number of tokens. -/
def Layout.cut : (fuel : Nat) → Layout → Cut
  | 0, l => ⟨l.settled, some .markup⟩
  | fuel + 1, l =>
    match l.readOn with
    | .error f => ⟨l.settled, some f⟩
    | .ok (l, true) => ⟨l.tokens.reverse, none⟩
    | .ok (l, false) => cut fuel l

/-- The characters of a text as they count: without a byte order mark in front. -/
def withoutMark : List Char → List Char
  | [] => []
  | c :: rest => if c = byteOrderMark then rest else c :: rest

/-- The tokens of a text. -/
def tokens (cs : List Char) : Cut :=
  (Layout.start (withoutMark cs)).cut ((withoutMark cs).length + 2)

end Baseline.Yaml
