import Baseline.Yaml.Kind
import Baseline.Yaml.Layout

/-!
# The nodes of a YAML text

A text holds at most one document, and a document is one node: a scalar, a sequence or a
mapping.  A node may be named by an anchor, and a reference stands for the node of that name.  A
collection may refer to itself; it is then written out over and over, down to `selfLimit` levels.

* `Node` : a node with its kind.
* `Node.tied` : a collection in whose content the references to it are resolved.
* `document` : the node that a list of tokens describes, if it describes one.
-/

set_option autoImplicit false

namespace Baseline.Yaml

/-- A node of a document.  A reference from within a collection to the collection itself comes with
the collection as it starts, without content. -/
inductive Node where
  | scalar (kind : Kind) (text : String)
  | sequence (kind : Kind) (items : List Node)
  | mapping (kind : Kind) (entries : List (Node × Node))
  | within (name : String) (start : Node)

namespace Node

instance : Inhabited Node := ⟨scalar .null ""⟩

/-- The kind of a node. -/
def kind : Node → Kind
  | scalar k _ => k
  | sequence k _ => k
  | mapping k _ => k
  | within _ start => kind start

/-- A node that is not there. -/
def absent : Node := scalar .null ""

/-- The same node with another kind. -/
def withKind (k : Kind) : Node → Node
  | scalar _ text => scalar k text
  | sequence _ items => sequence k items
  | mapping _ entries => mapping k entries
  | within name start => within name (withKind k start)

/-- The collection as it starts, for a reference from within it. -/
def opened : Node → Node
  | within _ start => start
  | n => n

/-! ## Collections that refer to themselves -/

mutual

/-- The node in which another one stands wherever a name is referred to from within. -/
def fill (name : String) (whole : Node) : Node → Node
  | scalar k text => scalar k text
  | sequence k items => sequence k (fillItems name whole items)
  | mapping k es => mapping k (fillEntries name whole es)
  | within other start => if other = name then whole else within other start

/-- The items in which a node stands wherever a name is referred to from within. -/
def fillItems (name : String) (whole : Node) : List Node → List Node
  | [] => []
  | n :: rest => fill name whole n :: fillItems name whole rest

/-- The entries in which a node stands wherever a name is referred to from within. -/
def fillEntries (name : String) (whole : Node) : List (Node × Node) → List (Node × Node)
  | [] => []
  | (k, v) :: rest => (fill name whole k, fill name whole v) :: fillEntries name whole rest

end

/-- How often a collection that refers to itself is written out inside itself.  Settings are looked
up two levels deep. -/
def selfLimit : Nat := 3

/-- A collection with a name, written out inside itself a number of times. -/
def tiedTimes (name : String) (n : Node) : (times : Nat) → Node
  | 0 => n
  | times + 1 => n.fill name (tiedTimes name n times)

/-- A collection with a name in whose content the references to it are resolved. -/
def tied (name : String) (n : Node) : Node := n.tiedTimes name selfLimit

end Node

/-! ## Reading -/

/-- Tokens that are being read, with what the handles stand for, the nodes that have names, and the
number of collections around the next node. -/
structure Reading where
  tokens : List Token
  handles : List (String × String)
  named : List (String × Node)
  depth : Nat

/-- A step of reading, which may be refused.  It knows the fault that stands behind the last token, if
there is one. -/
abbrev Reader (α : Type) := ReaderT (Option Fault) (StateT Reading (Except Fault)) α

/-- Where a node stands: in a block, in an entry of a block, where the items of a sequence may
stand without a block of their own, or inside brackets. -/
inductive Place where
  | block
  | blockEntry
  | brackets
deriving DecidableEq, Repr

/-- The tag and the anchor in front of a node. -/
structure Properties where
  tag : Option String
  anchor : Option String
deriving DecidableEq, Repr

namespace Reader

/-- Stops with a fault. -/
def stop {α : Type} (f : Fault) : Reader α := fun _ _ => .error f

/-- Refuses the text. -/
def refuse {α : Type} : Reader α := stop .markup

/-- The next token; nothing where the text ends. -/
def next : Reader (Option Token) := fun behind r =>
  match r.tokens, behind with
  | [], some f => .error f
  | ts, _ => .ok (ts.head?, r)

/-- Moves past the next token. -/
def skip : Reader Unit := modify fun r => { r with tokens := r.tokens.tail }

/-- Moves past the next token if it is the given one, and tells whether it was. -/
def skipIf (t : Token) : Reader Bool := do
  if (← next) = some t then
    skip
    return true
  else return false

/-- Moves past a token that has to be there. -/
def expect (t : Token) : Reader Unit := do
  if !(← skipIf t) then refuse

/-- Whether the next token is one of the given ones. -/
def nextIsOneOf (ts : List Token) : Reader Bool := do
  return match ← next with
    | some t => ts.contains t
    | none => false

/-! ## Names and tags -/

/-- The node with a name. -/
def nodeNamed (name : String) : Reader Node := do
  match (← get).named.lookup name with
  | some n => return n
  | none => refuse

/-- Gives a name to a node; a name can be given once. -/
def giveName (name : String) (n : Node) : Reader Unit := do
  if (← get).named.any (·.1 = name) then refuse
  modify fun r => { r with named := (name, n) :: r.named }

/-- A scalar with its name, if it has one. -/
def namedScalar (name : Option String) (n : Node) : Reader Node := do
  if let some name := name then giveName name n
  return n

/-- How deep collections may be nested: each level takes its part of the stack. -/
def nestLimit : Nat := 490

/-- Reads the content of a collection, one level deeper. -/
def deeper {α : Type} (content : Reader α) : Reader α := do
  if nestLimit ≤ (← get).depth then stop .nodesTooDeep
  modify fun r => { r with depth := r.depth + 1 }
  let found ← content
  modify fun r => { r with depth := r.depth - 1 }
  return found

/-- The nodes that have names, with a collection that is complete. -/
def complete (name : String) (whole : Node) (named : List (String × Node)) : List (String × Node) :=
  named.map fun e => (e.1, e.2.fill name whole)

/-- Reads the content of a collection.  Its name counts from the start, and the references inside
are resolved at the end. -/
def collection {α : Type} (name : Option String) (make : List α → Node)
    (content : Reader (List α)) : Reader Node := do
  match name with
  | none => return make (← deeper content)
  | some name =>
    giveName name (.within name (make []))
    let whole := (make (← deeper content)).tied name
    modify fun r => { r with named := complete name whole r.named }
    return whole

/-- A tag in full. -/
def fullTag (t : TagName) : Reader String := do
  match t.handle with
  | none => return t.suffix
  | some handle =>
    match (← get).handles.lookup handle with
    | some meaning => return meaning ++ t.suffix
    | none => refuse

/-- The properties at the next token: a tag and an anchor in either order, or none. -/
def properties : Reader Properties := do
  match ← next with
  | some (.anchor name) =>
    skip
    match ← next with
    | some (.tag t) =>
      skip
      return ⟨some (← fullTag t), some name⟩
    | _ => return ⟨none, some name⟩
  | some (.tag t) =>
    skip
    match ← next with
    | some (.anchor name) =>
      skip
      return ⟨some (← fullTag t), some name⟩
    | _ => return ⟨some (← fullTag t), none⟩
  | _ => return ⟨none, none⟩

end Reader

namespace Properties

/-- The tag of a node whose kind is to be found from its content. -/
def unspecific : String := "!"

/-- Whether nothing stands in front of a node. -/
def isEmpty (p : Properties) : Bool := p.tag.isNone && p.anchor.isNone

/-- The kind of a node, given what it is without a tag. -/
def kindOr (untagged : Kind) (p : Properties) : Kind :=
  match p.tag with
  | none => untagged
  | some tag => if tag = unspecific then untagged else Kind.ofTag tag

/-- The kind of a scalar.  Quotes make it a text, unless its tag is unspecific. -/
def scalarKind (text : String) (plain : Bool) (p : Properties) : Kind :=
  p.kindOr (if plain || p.tag.isSome then Kind.ofPlain text else .text)

end Properties

/-! ## Nodes -/

namespace Node

open Reader

mutual

/-- The node at the next token; `fuel` bounds the number of steps. -/
def read : (fuel : Nat) → Place → Reader Node
  | 0, _ => refuse
  | fuel + 1, place => do
    match ← next with
    | some (.reference name) =>
      skip
      nodeNamed name
    | _ =>
      let p ← properties
      match ← next with
      | some (.scalar text plain) =>
        skip
        namedScalar p.anchor (scalar (p.scalarKind text plain) text)
      | t =>
        let sequenceOf := sequence (p.kindOr .sequence)
        let mappingOf := mapping (p.kindOr .mapping)
        if t = some .item ∧ place = .blockEntry then
          collection p.anchor sequenceOf (looseItems fuel)
        else if t = some .sequenceOpen then
          skip
          collection p.anchor sequenceOf (bracketItems fuel true)
        else if t = some .mappingOpen then
          skip
          collection p.anchor mappingOf (bracketEntries fuel true)
        else if t = some .sequenceBlock ∧ place ≠ .brackets then
          skip
          collection p.anchor sequenceOf (blockItems fuel)
        else if t = some .mappingBlock ∧ place ≠ .brackets then
          skip
          collection p.anchor mappingOf (blockEntries fuel)
        else if p.isEmpty then refuse
        else namedScalar p.anchor (scalar (p.scalarKind "" true) "")

/-- The node at the next token, or nothing when one of the given tokens comes. -/
def readUnless : (fuel : Nat) → Place → (stops : List Token) → Reader Node
  | 0, _, _ => refuse
  | fuel + 1, place, stops => do
    if ← nextIsOneOf stops then return absent
    read fuel place

/-- What stands behind a colon, or nothing when there is none. -/
def readValue : (fuel : Nat) → Place → (stops : List Token) → Reader Node
  | 0, _, _ => refuse
  | fuel + 1, place, stops => do
    if ← skipIf .value then readUnless fuel place stops else return absent

/-- The items of a block up to its end. -/
def blockItems : (fuel : Nat) → Reader (List Node)
  | 0 => refuse
  | fuel + 1 => do
    if ← skipIf .item then
      let n ← readUnless fuel .block [.item, .blockEnd]
      return n :: (← blockItems fuel)
    expect .blockEnd
    return []

/-- The items of a sequence that has no block of its own. -/
def looseItems : (fuel : Nat) → Reader (List Node)
  | 0 => refuse
  | fuel + 1 => do
    if ← skipIf .item then
      let n ← readUnless fuel .block [.item, .key, .value, .blockEnd]
      return n :: (← looseItems fuel)
    return []

/-- The entries of a block up to its end. -/
def blockEntries : (fuel : Nat) → Reader (List (Node × Node))
  | 0 => refuse
  | fuel + 1 => do
    if ← skipIf .key then
      let k ← readUnless fuel .blockEntry [.key, .value, .blockEnd]
      let v ← readValue fuel .blockEntry [.key, .value, .blockEnd]
      return (k, v) :: (← blockEntries fuel)
    expect .blockEnd
    return []

/-- The items between square brackets up to the closing one.  An entry among them is a mapping
of its own. -/
def bracketItems : (fuel : Nat) → (first : Bool) → Reader (List Node)
  | 0, _ => refuse
  | fuel + 1, first => do
    if ← skipIf .sequenceClose then return []
    if !first then expect .comma
    if ← skipIf .key then
      let entry ← deeper (bracketEntry fuel)
      return mapping .mapping [entry] :: (← bracketItems fuel false)
    if ← skipIf .sequenceClose then return []
    let n ← read fuel .brackets
    return n :: (← bracketItems fuel false)

/-- The entry behind its mark, among the items between square brackets. -/
def bracketEntry : (fuel : Nat) → Reader (Node × Node)
  | 0 => refuse
  | fuel + 1 => do
    let k ← readUnless fuel .brackets [.value, .comma, .sequenceClose]
    let v ← readValue fuel .brackets [.comma, .sequenceClose]
    return (k, v)

/-- The entries between curly brackets up to the closing one.  A key may stand alone. -/
def bracketEntries : (fuel : Nat) → (first : Bool) → Reader (List (Node × Node))
  | 0, _ => refuse
  | fuel + 1, first => do
    if ← skipIf .mappingClose then return []
    if !first then expect .comma
    if ← skipIf .key then
      let k ← readUnless fuel .brackets [.value, .comma, .mappingClose]
      let v ← readValue fuel .brackets [.comma, .mappingClose]
      return (k, v) :: (← bracketEntries fuel false)
    if ← skipIf .mappingClose then return []
    let k ← read fuel .brackets
    return (k, absent) :: (← bracketEntries fuel false)

end

end Node

/-! ## Documents -/

namespace Reader

/-- What the handles stand for unless a directive says otherwise. -/
def standardHandles : List (String × String) := [("!", "!"), ("!!", Kind.standard)]

/-- Moves past the ends of documents. -/
def skipDocumentEnds : Reader Unit :=
  modify fun r => { r with tokens := r.tokens.dropWhile (· = .documentEnd) }

/-- The handles that some directives declare.  Only the first version is known; neither it nor
a handle may be declared twice. -/
def declare (versioned : Bool) (handles : List (String × String)) :
    List Directive → Reader (List (String × String))
  | [] => return handles
  | .version major _ :: rest =>
    if versioned ∨ major ≠ 1 then refuse else declare true handles rest
  | .handle name meaning :: rest =>
    if handles.any (·.1 = name) then refuse
    else declare versioned ((name, meaning) :: handles) rest
  | .other :: rest => declare versioned handles rest

/-- The directive that a token is. -/
def directive? : Token → Option Directive
  | .directive d => some d
  | _ => none

/-- Moves past the directives in front of a document. -/
def directives : Reader Unit := do
  let r ← get
  let ds := (r.tokens.takeWhile fun t => (directive? t).isSome).filterMap directive?
  let handles ← declare false [] ds
  set { r with tokens := r.tokens.drop ds.length, handles := handles ++ standardHandles }

/-- Whether a token stands outside of documents. -/
def isOutside : Option Token → Bool
  | none => true
  | some (.directive _) => true
  | some .documentStart => true
  | some .documentEnd => true
  | some _ => false

/-- A document with a mark at its start. -/
def markedDocument (fuel : Nat) : Reader (Option Node) := do
  skipDocumentEnds
  if (← next).isNone then return none
  directives
  expect .documentStart
  if isOutside (← next) then return some .absent
  return some (← Node.read fuel .block)

/-- The document of a text, up to the end of the text.  The mark at its start may be missing;
then the end of a document may not come first. -/
def document (fuel : Nat) : Reader (Option Node) := do
  let t ← next
  let n ←
    if isOutside t ∧ t ≠ some .documentEnd then markedDocument fuel
    else some <$> Node.read fuel .block
  skipDocumentEnds
  if (← next).isSome then refuse
  return n

end Reader

/-- The node that the tokens of a text describe; nothing when they describe no document. -/
def document (c : Cut) : Except Fault (Option Node) :=
  ((Reader.document (4 * c.tokens.length + 4)).run c.fault).run'
    ⟨c.tokens, Reader.standardHandles, [], 0⟩

end Baseline.Yaml
