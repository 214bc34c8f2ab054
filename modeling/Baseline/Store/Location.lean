import Baseline.FileTree.Glob
import Baseline.Settings.Environment
import Baseline.Store.File

/-!
# Where store files live

All store files share a base directory.  An integration that runs once has one file there,
named for it; one that runs for several instances has a file for each, and the files that
instances leave behind are removed when they have become stale.

* `Surroundings.baseDirectory` : an explicit directory, else the one named by a variable, else
  a directory for temporary files.
* `Surroundings.defaultPath` : the file of an integration without instances.
* `StoreLocation` : the file of one instance.
* `StoreLocation.findOld`, `StoreLocation.cleanOld` : the stale files of other instances.
-/

set_option autoImplicit false

namespace Baseline

/-- What the process is told about its surroundings: its variables, and the directory for
temporary files. -/
structure Surroundings where
  environment : Environment
  temporary : Path

/-- The variable that names the base directory. -/
def baseDirectoryVariable : String := "COLLECTOR_SDK_STORE__BASE_DIR"

/-- The directory for integrations among the temporary files. -/
def integrationsDirectory : String := "collector-integrations"

/-- A text that is there and not empty. -/
def present? (s : Option String) : Option String := s.filter (· ≠ "")

namespace Surroundings

/-- The base directory of all store files. -/
def baseDirectory (w : Surroundings) (explicit : Option String) : Path :=
  match present? explicit with
  | some dir => Path.ofText dir
  | none =>
    match present? (Table.get? baseDirectoryVariable w.environment) with
    | some dir => Path.ofText dir
    | none => w.temporary.join integrationsDirectory

/-- The file of an integration without instances. -/
def defaultPath (w : Surroundings) (name : String) (explicit : Option String) :
    Except Failure Path :=
  if name = "" then .error (.reported .nameMissing)
  else .ok ((w.baseDirectory explicit).join (name ++ ".json"))

end Surroundings

/-- The store file of one instance of an integration. -/
structure StoreLocation where
  directory : Path
  name : String
  id : String
  ttl : Value

namespace StoreLocation

/-- The name of the store file of an instance. -/
def fileName (name id : String) : String := name ++ "-" ++ id ++ ".json"

/-- The location for an instance; name, id and a positive time to live are required. -/
def make (w : Surroundings) (name id : String) (explicit : Option String) (ttl : Value) :
    Except Failure StoreLocation :=
  if name = "" then .error (.reported .nameMissing)
  else if id = "" then .error (.reported .idMissing)
  else
    match Value.relates .lessEqual ttl (.int 0) with
    | .error f => .error (.fault f)
    | .ok true =>
      match ttl.plain with
      | .error f => .error (.fault f)
      | .ok plain => .error (.reported (.badTtl plain ttl))
    | .ok false => .ok ⟨w.baseDirectory explicit, name, id, ttl⟩

/-- The path of the store file. -/
def filePath (l : StoreLocation) : Path := l.directory.join (fileName l.name l.id)

/-- The pattern for the store files of all instances. -/
def pattern (l : StoreLocation) : String := fileName l.name "*"

/-- The logger of this module. -/
def loggerName : String := "collector_sdk.persist.store_path"

/-- A record about a store file. -/
def note (path : Path) (message : String) (fields : List (String × Value)) : LogRecord where
  logger := loggerName
  level := Level.debug
  message := message
  fields := ("path", .text path.text) :: fields

/-- Whether a candidate is a stale file of another instance.  One that cannot be inspected is
not. -/
def isOld (tree : FileTree) (now : Double) (l : StoreLocation) (candidate : Path) :
    Except Fault Bool :=
  if candidate = l.filePath then .ok false
  else
    match tree.stat candidate with
    | .ok stat => Value.relates .greater (.float (StoreFile.age now stat.time)) l.ttl
    | .error (.file _) => .ok false
    | .error f => .error f

/-- The stale files of other instances. -/
def findOld (tree : FileTree) (now : Double) (l : StoreLocation) : Except Fault (List Path) := do
  let candidates ← tree.glob l.directory l.pattern
  candidates.filterM (l.isOld tree now)

/-- The records about the stale files that were found. -/
def oldLog (l : StoreLocation) (old : List Path) : List LogRecord :=
  old.map fun p => note p "Store file is older than TTL" [("ttl", l.ttl)]

/-- Removes one stale file, unless the file system refuses. -/
def removeOld (time : Double) (done : DiskStep (List Path)) (p : Path) : DiskStep (List Path) :=
  match done.result with
  | .error _ => done
  | .ok removed =>
    match done.tree.remove time p with
    | .ok tree => ⟨.ok (removed ++ [p]), tree, done.log ++ [note p "Removed store file" []]⟩
    | .error (.file e) =>
      { done with log := done.log ++
          [note p "Failed to remove store file" [("error", .text e.message)]] }
    | .error f => { done with result := .error (.fault f) }

/-- Removes the stale files of other instances, and tells which. -/
def cleanOld (tree : FileTree) (time now : Double) (l : StoreLocation) : DiskStep (List Path) :=
  match l.findOld tree now with
  | .error f => ⟨.error (.fault f), tree, []⟩
  | .ok old => old.foldl (removeOld time) ⟨.ok [], tree, l.oldLog old⟩

end StoreLocation

end Baseline
