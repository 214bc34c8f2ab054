import Baseline.FileTree.Basic

/-!
# Finding files by pattern

A pattern is a relative path whose components may hold wildcards: `*` for any characters, `?`
for one, `[…]` for one of a set and `[!…]` for one outside it.  A bracket that is never closed
stands for itself.  The component `**` stands for any number of directories.

* `Glob.pieces` : the wildcards of one component, and `Glob.matchesPieces` what they match.
* `FileTree.glob` : the paths below a directory that match, in the order of paths.
-/

set_option autoImplicit false

namespace Baseline

namespace Glob

/-! ## Character sets -/

/-- A part of a set: a character, or the mark that makes a range of its neighbours. -/
inductive SetToken where
  | char (c : Char)
  | through
deriving DecidableEq, Repr

/-- Cuts the inside of a bracket at the hyphens that make ranges.  A hyphen is such a mark when
at least one character precedes it in its chunk and, after an earlier range, two do; `skip`
counts the characters that still have to come before one, and `chunk` is reversed. -/
def cutChunks (skip : Nat) (chunk : List Char) : List Char → List (List Char)
  | [] => [chunk.reverse]
  | c :: rest =>
    if c = '-' ∧ skip = 0 then chunk.reverse :: cutChunks 2 [] rest
    else cutChunks (skip - 1) (c :: chunk) rest

/-- A hyphen at the end of the inside stands for itself. -/
def joinLastHyphen : List (List Char) → List (List Char)
  | [] => []
  | [c] => [c]
  | [c, []] => [c ++ ['-']]
  | c :: rest => c :: joinLastHyphen rest

/-- Puts a chunk before the others; a range whose ends are out of order vanishes with them. -/
def consChunk (chunk : List Char) : List (List Char) → List (List Char)
  | [] => [chunk]
  | next :: rest =>
    match chunk.getLast?, next with
    | some a, b :: after =>
      if b < a then (chunk.dropLast ++ after) :: rest else chunk :: next :: rest
    | _, _ => chunk :: next :: rest

/-- The tokens of the chunks, with a range mark between two of them. -/
def chunkTokens : List (List Char) → List SetToken
  | [] => []
  | [c] => c.map .char
  | c :: rest => c.map .char ++ .through :: chunkTokens rest

/-- The tokens of the inside of a bracket. -/
def setTokens (inside : List Char) : List SetToken :=
  let skip := if inside.head? = some '!' then 2 else 1
  chunkTokens ((joinLastHyphen (cutChunks skip [] inside)).foldr consChunk [])

/-- The characters and ranges that the tokens mean. -/
def setRanges : List SetToken → List (Char × Char)
  | [] => []
  | .char a :: .through :: .char b :: rest => (a, b) :: setRanges rest
  | .char a :: rest => (a, a) :: setRanges rest
  | .through :: rest => ('-', '-') :: setRanges rest

/-! ## Components -/

/-- A piece of a pattern. -/
inductive Piece where
  | literal (c : Char)
  | anyChar
  | anyText
  | oneOf (negated : Bool) (ranges : List (Char × Char))
deriving DecidableEq, Repr

/-- The set that the inside of a bracket means; an empty one matches nothing. -/
def setPiece (inside : List Char) : Piece :=
  match setTokens inside with
  | .char '!' :: rest => .oneOf true (setRanges rest)
  | tokens => .oneOf false (setRanges tokens)

/-- Splits what follows an opening bracket at the closing one.  A closing bracket that comes
first, or right after an exclamation mark, belongs to the inside. -/
def splitBracket (cs : List Char) : Option (List Char × List Char) :=
  let (lead, rest) : List Char × List Char := match cs with
    | '!' :: ']' :: rest => (['!', ']'], rest)
    | '!' :: rest => (['!'], rest)
    | ']' :: rest => ([']'], rest)
    | rest => ([], rest)
  match rest.dropWhile (· ≠ ']') with
  | [] => none
  | _ :: after => some (lead ++ rest.takeWhile (· ≠ ']'), after)

/-- The pieces of a component; `fuel` bounds their number. -/
def piecesWithin : (fuel : Nat) → List Char → List Piece
  | 0, _ => []
  | _ + 1, [] => []
  | fuel + 1, c :: rest =>
    if c = '*' then .anyText :: piecesWithin fuel rest
    else if c = '?' then .anyChar :: piecesWithin fuel rest
    else if c = '[' then
      match splitBracket rest with
      | some (inside, after) => setPiece inside :: piecesWithin fuel after
      | none => .literal '[' :: piecesWithin fuel rest
    else .literal c :: piecesWithin fuel rest

/-- The pieces of a component. -/
def pieces (cs : List Char) : List Piece := piecesWithin cs.length cs

/-- Whether a character lies in one of the ranges. -/
def inRanges (c : Char) (ranges : List (Char × Char)) : Bool :=
  ranges.any fun r => r.1 ≤ c && c ≤ r.2

/-- A list and everything that is left when characters are taken from its front. -/
def suffixes : List Char → List (List Char)
  | [] => [[]]
  | c :: rest => (c :: rest) :: suffixes rest

/-- Whether pieces match a text as a whole. -/
def matchesPieces : List Piece → List Char → Bool
  | [], cs => cs.isEmpty
  | .anyText :: ps, cs => (suffixes cs).any fun rest => matchesPieces ps rest
  | .anyChar :: ps, cs =>
    match cs with
    | [] => false
    | _ :: rest => matchesPieces ps rest
  | .literal c :: ps, cs =>
    match cs with
    | [] => false
    | d :: rest => d = c && matchesPieces ps rest
  | .oneOf negated ranges :: ps, cs =>
    match cs with
    | [] => false
    | d :: rest => (inRanges d ranges != negated) && matchesPieces ps rest

/-- Whether a component has wildcards. -/
def isWild (s : String) : Bool := s.toList.any fun c => c = '*' || c = '?' || c = '['

/-- Whether two stars stand next to each other. -/
def hasDoubleStar : List Char → Bool
  | '*' :: '*' :: _ => true
  | _ :: rest => hasDoubleStar rest
  | [] => false

/-- How one component of a pattern selects. -/
inductive Selector where
  | exactly (name : String)
  | matching (pieces : List Piece)
  | anyDepth
deriving DecidableEq, Repr

/-- The selector of a component. -/
def selector (s : String) : Except Fault Selector :=
  if s = "**" then .ok .anyDepth
  else if hasDoubleStar s.toList then
    .error (.badPattern "Invalid pattern: '**' can only be an entire path component")
  else if isWild s then .ok (.matching (pieces s.toList))
  else .ok (.exactly s)

/-- The selectors of a pattern, which has to be relative. -/
def selectors (pattern : String) : Except Fault (List Selector) :=
  if Path.rootOf pattern ≠ .relative then .error .absolutePattern
  else (Path.components pattern).mapM selector

end Glob

namespace FileTree

open Glob

/-- The paths of a directory and of all directories below it, links not followed. -/
def directoriesUnder (t : FileTree) (p : Path) : List Path :=
  match t.directoryName? p with
  | none => []
  | some dir =>
    p :: t.nodes.filterMap fun n =>
      match n.2 with
      | .directory _ =>
        if dir.isPrefixOf n.1 ∧ n.1 ≠ dir then some ⟨p.root, p.parts ++ n.1.drop dir.length⟩
        else none
      | _ => none

/-- The paths of the entries of a directory. -/
def childPaths (t : FileTree) (p : Path) : List Path :=
  match t.directoryName? p with
  | none => []
  | some dir => (t.entries dir).map p.child

/-- The paths of the entries of a directory that is to be searched.  It is refused when its path
cannot be followed for another reason than that there is nothing. -/
def listing (t : FileTree) (p : Path) : Except Fault (List Path) :=
  match t.locate true p with
  | .ok _ => .ok (t.childPaths p)
  | .error f => if isAbsence f then .ok [] else .error f

/-- The last component of a path. -/
def lastName (p : Path) : String := p.parts.getLast?.getD ""

/-- Whether the entry `q` of a directory is a directory.  The listing tells what stands there, and
only a link has to be followed. -/
def entryIsDirectory (t : FileTree) (p q : Path) : Except Fault Bool :=
  match (t.directoryName? p).bind fun dir => t.node? (dir ++ [lastName q]) with
  | some (.directory _) => .ok true
  | some (.link _) => t.isDirectory q
  | _ => .ok false

/-- The paths below a directory that the selectors choose. -/
def select (t : FileTree) : List Selector → Path → Except Fault (List Path)
  | [], p => .ok [p]
  | .exactly name :: rest, p => do
    let q := p.child name
    if ← (if rest.isEmpty then t.pathExists q else t.isDirectory q) then select t rest q
    else return []
  | .matching ps :: rest, p => do
    let found ← (← t.listing p).mapM fun q => do
      if !rest.isEmpty then
        if !(← t.entryIsDirectory p q) then return []
      if matchesPieces ps (lastName q).toList then select t rest q else return []
    return found.flatten
  | .anyDepth :: rest, p => do
    let found ← (t.directoriesUnder p).mapM fun q => select t rest q
    return found.flatten.eraseDups

/-- The paths below a directory that match a pattern, in the order of paths.  Where there is no
directory nothing matches. -/
def glob (t : FileTree) (dir : Path) (pattern : String) : Except Fault (List Path) := do
  let chosen ← selectors pattern
  if !(← t.isDirectory dir) then return []
  let found ← t.select chosen dir
  return found.mergeSort Path.precedes

end FileTree

end Baseline
