import Baseline.FileTree.Path
import Baseline.Fault
import Baseline.Number.Double

/-!
# The file tree

A tree of files, directories and symbolic links, as the list of its nodes under their absolute
names.  The root directory is not listed.

* `FileTree.locate` : follows a path through directories and links.
* `FileTree.stat`, `FileTree.read`, `FileTree.isDirectory`, `FileTree.pathExists` : questions.
* `FileTree.makeDirectory`, `FileTree.makeDirectories`, `FileTree.write`, `FileTree.remove`,
  `FileTree.link`, `FileTree.setTime` : changes.

An operation that fails leaves the tree as it was, except `makeDirectories`, which keeps the
ancestors that it has made.
-/

set_option autoImplicit false

namespace Baseline

/-- The absolute name of a node: the components below the root. -/
abbrev NodeName := List String

/-- What stands at a name.  Times are in seconds. -/
inductive FileNode where
  | file (content : List UInt8) (time : Double)
  | directory (time : Double)
  | link (target : String)
deriving DecidableEq, Repr

/-- A tree of nodes. -/
structure FileTree where
  nodes : List (NodeName × FileNode)
deriving DecidableEq, Repr

/-- What the file system tells about a file or a directory. -/
structure FileStat where
  isDirectory : Bool
  time : Double
deriving DecidableEq, Repr

namespace FileTree

/-- The tree that holds nothing. -/
def empty : FileTree := ⟨[]⟩

/-- The node at a name, links not followed. -/
def node? (t : FileTree) (name : NodeName) : Option FileNode :=
  (t.nodes.find? (·.1 = name)).map (·.2)

/-- Puts a node at a name, replacing what stood there. -/
def put (t : FileTree) (name : NodeName) (node : FileNode) : FileTree :=
  if t.nodes.any (·.1 = name) then
    ⟨t.nodes.map fun n => if n.1 = name then (name, node) else n⟩
  else ⟨t.nodes ++ [(name, node)]⟩

/-- Takes the node at a name away. -/
def erase (t : FileTree) (name : NodeName) : FileTree := ⟨t.nodes.filter (·.1 ≠ name)⟩

/-- The names of the entries of a directory, in no particular order. -/
def entries (t : FileTree) (dir : NodeName) : List String :=
  t.nodes.filterMap fun n =>
    match n.1.getLast? with
    | some last => if n.1 = dir ++ [last] then some last else none
    | none => none

/-! ## Following paths -/

/-- The longest component and the longest path, in bytes. -/
def maxComponent : Nat := 255
def maxPath : Nat := 4095

/-- How many links may be followed on the way. -/
def maxLinks : Nat := 40

/-- Where a path leads: to a node, or to a free name in an existing directory. -/
inductive Place where
  | root
  | node (name : NodeName) (node : FileNode)
  | free (directory : NodeName) (name : String)
deriving DecidableEq, Repr

/-- The outcome of a walk that stops at the first link to follow. -/
inductive Walk where
  | arrived (place : Place)
  | failed (cause : FileErrorCause)
  | atLink (directory : NodeName) (target : String) (rest : List String)

/-- Why a path fails that goes on from a place that is no directory. -/
def Place.obstacle : Place → FileErrorCause
  | .free _ _ => .noEntry
  | _ => .notDirectory

/-- A place that has to be a directory. -/
def Place.asDirectory : Place → Except FileErrorCause Place
  | .root => .ok .root
  | .node name (.directory time) => .ok (.node name (.directory time))
  | .node name (.file content time) => .error (Place.node name (.file content time)).obstacle
  | .node name (.link target) => .error (Place.node name (.link target)).obstacle
  | .free dir last => .error (Place.free dir last).obstacle

/-- The place that is a directory. -/
def directoryPlace (t : FileTree) (dir : NodeName) : Place :=
  match t.node? dir with
  | some n => .node dir n
  | none => .root

/-- Walks along components from a directory.  `followLast` tells whether a link at the end is
followed. -/
def walk (t : FileTree) (followLast : Bool) (dir : NodeName) : List String → Walk
  | [] => .arrived (t.directoryPlace dir)
  | ".." :: rest => walk t followLast dir.dropLast rest
  | c :: rest =>
    if maxComponent < c.utf8ByteSize then .failed .nameTooLong
    else
      match t.node? (dir ++ [c]) with
      | none => if rest = [] then .arrived (.free dir c) else .failed .noEntry
      | some (.directory _) => walk t followLast (dir ++ [c]) rest
      | some (.file content time) =>
        if rest = [] then .arrived (.node (dir ++ [c]) (.file content time))
        else .failed .notDirectory
      | some (.link target) =>
        if rest = [] ∧ ¬ followLast then .arrived (.node (dir ++ [c]) (.link target))
        else .atLink dir target rest

/-- Where a way leads that has gone through a link, of which `found` tells.  When nothing comes
after the link, the end of its target counts: a slash or a dot there asks for a directory. -/
def throughLink (target : String) (rest : List String) (found : Except FileErrorCause Place) :
    Except FileErrorCause Place :=
  if rest = [] ∧ Path.asksForDirectory target then found.bind Place.asDirectory else found

/-- Walks on through links, at most `budget` of them. -/
def walkLinks (t : FileTree) (followLast : Bool) (dir : NodeName) (cs : List String) :
    (budget : Nat) → Except FileErrorCause Place
  | 0 =>
    match t.walk followLast dir cs with
    | .arrived place => .ok place
    | .failed cause => .error cause
    | .atLink _ _ _ => .error .linkLoop
  | budget + 1 =>
    match t.walk followLast dir cs with
    | .arrived place => .ok place
    | .failed cause => .error cause
    | .atLink dir target rest =>
      let start := if Path.rootOf target = .relative then dir else []
      throughLink target rest
        (walkLinks t followLast start (Path.components target ++ rest) budget)

/-- The failure of an operation on a path. -/
def failure (cause : FileErrorCause) (p : Path) : Fault := .file ⟨cause, p.text, none⟩

/-- Where a path leads. -/
def locate (t : FileTree) (followLast : Bool) (p : Path) : Except Fault Place :=
  if p.hasNull then .error .embeddedNull
  else if maxPath < p.text.utf8ByteSize then .error (failure .nameTooLong p)
  else
    match t.walkLinks followLast [] p.parts maxLinks with
    | .ok place => .ok place
    | .error cause => .error (failure cause p)

/-! ## Questions -/

/-- Whether a path leads to a directory or a file, and when that was last written. -/
def stat (t : FileTree) (p : Path) : Except Fault FileStat := do
  match ← t.locate true p with
  | .root => return ⟨true, .zero⟩
  | .node _ (.directory time) => return ⟨true, time⟩
  | .node _ (.file _ time) => return ⟨false, time⟩
  | .node _ (.link _) => throw (failure .linkLoop p)
  | .free _ _ => throw (failure .noEntry p)

/-- The content of the file that a path leads to. -/
def read (t : FileTree) (p : Path) : Except Fault (List UInt8) := do
  match ← t.locate true p with
  | .root => throw (failure .isDirectory p)
  | .node _ (.directory _) => throw (failure .isDirectory p)
  | .node _ (.file content _) => return content
  | .node _ (.link _) => throw (failure .linkLoop p)
  | .free _ _ => throw (failure .noEntry p)

/-- Whether a failure only tells that there is nothing to be found. -/
def isAbsence : Fault → Bool
  | .file e => e.cause = .noEntry || e.cause = .notDirectory || e.cause = .linkLoop
  | .embeddedNull => true
  | _ => false

/-- A question about a path, where absence counts as no. -/
def absenceIsFalse (answer : Except Fault Bool) : Except Fault Bool :=
  match answer with
  | .ok b => .ok b
  | .error f => if isAbsence f then .ok false else .error f

/-- Whether a path leads to a directory. -/
def isDirectory (t : FileTree) (p : Path) : Except Fault Bool :=
  absenceIsFalse ((t.stat p).map (·.isDirectory))

/-- Whether a path leads anywhere. -/
def pathExists (t : FileTree) (p : Path) : Except Fault Bool :=
  absenceIsFalse ((t.stat p).map fun _ => true)

/-- The absolute name of the directory that a path leads to. -/
def directoryName? (t : FileTree) (p : Path) : Option NodeName :=
  match t.locate true p with
  | .ok .root => some []
  | .ok (.node name (.directory _)) => some name
  | _ => none

/-! ## Changes -/

/-- Notes that the entries of a directory changed at a time. -/
def touch (t : FileTree) (dir : NodeName) (time : Double) : FileTree :=
  match t.node? dir with
  | some (.directory _) => t.put dir (.directory time)
  | _ => t

/-- Puts a new node into a directory. -/
def add (t : FileTree) (dir : NodeName) (name : String) (node : FileNode) (time : Double) :
    FileTree :=
  (t.put (dir ++ [name]) node).touch dir time

/-- Makes one directory. -/
def makeDirectory (t : FileTree) (time : Double) (p : Path) : Except Fault FileTree := do
  match ← t.locate false p with
  | .free dir name => return t.add dir name (.directory time) time
  | _ => throw (failure .alreadyExists p)

/-- The verdict on a refused `makeDirectory`: a directory that is there already will do. -/
def acceptDirectory (t : FileTree) (p : Path) (f : Fault) : Except Fault Unit :=
  match f with
  | .file _ =>
    match t.isDirectory p with
    | .ok true => .ok ()
    | .ok false => .error f
    | .error g => .error g
  | _ => .error f

/-- Whether a failure tells that an ancestor is missing. -/
def isNoEntry : Fault → Bool
  | .file e => e.cause = .noEntry
  | _ => false

/-- Makes a directory, given by its components in reverse, and the ancestors that it lacks. -/
def makeDirectoriesAt (time : Double) (start : PathRoot) :
    (reversed : List String) → FileTree → Except Fault Unit × FileTree
  | [], t =>
    match t.makeDirectory time ⟨start, []⟩ with
    | .ok t => (.ok (), t)
    | .error f => (t.acceptDirectory ⟨start, []⟩ f, t)
  | last :: before, t =>
    let p : Path := ⟨start, (last :: before).reverse⟩
    match t.makeDirectory time p with
    | .ok t => (.ok (), t)
    | .error f =>
      if isNoEntry f then
        match makeDirectoriesAt time start before t with
        | (.error g, t) => (.error g, t)
        | (.ok (), t) =>
          match t.makeDirectory time p with
          | .ok t => (.ok (), t)
          | .error g => if isNoEntry g then (.error g, t) else (t.acceptDirectory p g, t)
      else (t.acceptDirectory p f, t)

/-- Makes a directory and the ancestors that it lacks; one that is there already will do. -/
def makeDirectories (t : FileTree) (time : Double) (p : Path) : Except Fault Unit × FileTree :=
  makeDirectoriesAt time p.root p.parts.reverse t

/-- Whether a way ends at a link whose target is a name with a slash behind it, in a directory that
is there.  No file can be made under such a name, whatever stands there. -/
def stopsAtSlash (t : FileTree) (dir : NodeName) (cs : List String) : (budget : Nat) → Bool
  | 0 => false
  | budget + 1 =>
    match t.walk true dir cs with
    | .atLink dir target rest =>
      let start := if Path.rootOf target = .relative then dir else []
      if rest = [] ∧ Path.asksForDirectory target then
        Path.endsInSlash target &&
          match t.walkLinks true start (Path.components target).dropLast budget with
          | .ok .root | .ok (.node _ (.directory _)) => true
          | _ => false
      else stopsAtSlash t start (Path.components target ++ rest) budget
    | _ => false

/-- Why nothing can be written at a path along which the walk has failed. -/
def writeFault (t : FileTree) (p : Path) (f : Fault) : Fault :=
  if ¬ p.hasNull ∧ p.text.utf8ByteSize ≤ maxPath ∧ t.stopsAtSlash [] p.parts maxLinks then
    failure .isDirectory p
  else f

/-- Replaces the content of the file that a path leads to, or makes the file. -/
def write (t : FileTree) (time : Double) (p : Path) (content : List UInt8) :
    Except Fault FileTree := do
  match ← (t.locate true p).mapError (t.writeFault p) with
  | .root => throw (failure .isDirectory p)
  | .node _ (.directory _) => throw (failure .isDirectory p)
  | .node name (.file _ _) => return t.put name (.file content time)
  | .node _ (.link _) => throw (failure .linkLoop p)
  | .free dir name => return t.add dir name (.file content time) time

/-- Removes the file or link at a path. -/
def remove (t : FileTree) (time : Double) (p : Path) : Except Fault FileTree := do
  match ← t.locate false p with
  | .root => throw (failure .isDirectory p)
  | .node _ (.directory _) => throw (failure .isDirectory p)
  | .node name _ => return (t.erase name).touch name.dropLast time
  | .free _ _ => throw (failure .noEntry p)

/-- Makes a symbolic link. -/
def link (t : FileTree) (time : Double) (p : Path) (target : String) : Except Fault FileTree :=
  let refuse (f : Fault) : Fault := match f with
    | .file e => .file ⟨e.cause, target, some p.text⟩
    | f => f
  if target.toList.contains '\x00' ∨ p.hasNull then .error .embeddedNull
  else if target = "" then .error (refuse (failure .noEntry p))
  else if maxPath < target.utf8ByteSize then .error (refuse (failure .nameTooLong p))
  else
    match t.locate false p with
    | .error f => .error (refuse f)
    | .ok (.free dir name) => .ok (t.add dir name (.link target) time)
    | .ok _ => .error (refuse (failure .alreadyExists p))

/-- Sets the time at which the file or directory at a path was last written. -/
def setTime (t : FileTree) (p : Path) (time : Double) : Except Fault FileTree := do
  match ← t.locate true p with
  | .root => return t
  | .node name (.directory _) => return t.put name (.directory time)
  | .node name (.file content _) => return t.put name (.file content time)
  | .node _ (.link _) => throw (failure .linkLoop p)
  | .free _ _ => throw (failure .noEntry p)

end FileTree

end Baseline
