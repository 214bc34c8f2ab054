/-!
# Paths

A path is a root and a list of components.  Doubled slashes, single dots and a slash at the
end leave no trace; double dots stay, since only the file system can tell where they lead.

* `Path.ofText`, `Path.text` : reading and writing a path.
* `Path.asksForDirectory` : what the end of a text asks for, which its components do not show.
* `Path.join` : a path continued by a text; an absolute text replaces it.
* `Path.parent` : the path without its last component.
* `Path.precedes` : the order of paths, component by component.
-/

set_option autoImplicit false

namespace Baseline

/-- Where a path starts: at the current directory, at the root, or at the root written with
two slashes. -/
inductive PathRoot where
  | relative
  | root
  | doubled
deriving DecidableEq, Repr

namespace PathRoot

/-- How a root is written. -/
def text : PathRoot → String
  | relative => ""
  | root => "/"
  | doubled => "//"

end PathRoot

/-- A path. -/
structure Path where
  root : PathRoot
  parts : List String
deriving DecidableEq, Repr

namespace Path

/-- The pieces of a text between slashes; `piece` holds the current one, reversed. -/
def splitSlashes (piece : List Char) : List Char → List (List Char)
  | [] => [piece.reverse]
  | c :: rest =>
    if c = '/' then piece.reverse :: splitSlashes [] rest else splitSlashes (c :: piece) rest

/-- The components of a text: empty pieces and single dots are left out. -/
def components (s : String) : List String :=
  ((splitSlashes [] s.toList).filter fun p => p ≠ [] ∧ p ≠ ['.']).map String.ofList

/-- Whether a text asks for a directory: it ends in a slash or in a single dot. -/
def asksForDirectory (s : String) : Bool :=
  (splitSlashes [] s.toList).getLast? = some [] ∨ (splitSlashes [] s.toList).getLast? = some ['.']

/-- Whether a text ends in a slash, and not in a single dot before it. -/
def endsInSlash (s : String) : Bool :=
  (splitSlashes [] s.toList).getLast? = some [] ∧
    ((splitSlashes [] s.toList).filter (· ≠ [])).getLast? ≠ some ['.']

/-- The root of a text: exactly two slashes at the start are kept. -/
def rootOf (s : String) : PathRoot :=
  match s.toList with
  | '/' :: '/' :: '/' :: _ => .root
  | '/' :: '/' :: _ => .doubled
  | '/' :: _ => .root
  | _ => .relative

/-- Reads a path. -/
def ofText (s : String) : Path := ⟨rootOf s, components s⟩

/-- Writes a path; the empty one is a dot. -/
def text (p : Path) : String :=
  if p.root = .relative ∧ p.parts = [] then "."
  else p.root.text ++ String.intercalate "/" p.parts

/-- A path continued by a text. -/
def join (p : Path) (s : String) : Path :=
  let q := ofText s
  if q.root = .relative then ⟨p.root, p.parts ++ q.parts⟩ else q

/-- A path continued by one component. -/
def child (p : Path) (name : String) : Path := ⟨p.root, p.parts ++ [name]⟩

/-- The path without its last component; a root is its own parent. -/
def parent (p : Path) : Path := ⟨p.root, p.parts.dropLast⟩

/-- The components, led by the root when there is one. -/
def sortKey (p : Path) : List String :=
  if p.root = .relative then p.parts else p.root.text :: p.parts

/-- Whether a path comes no later than another. -/
def precedes (p q : Path) : Bool := compare p.sortKey q.sortKey != .gt

/-- Whether the text of a path holds a null character. -/
def hasNull (p : Path) : Bool := p.parts.any fun s => s.toList.contains '\x00'

end Path

end Baseline
