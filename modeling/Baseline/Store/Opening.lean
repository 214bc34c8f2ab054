import Baseline.Settings.Basic
import Baseline.Store.Location

/-!
# Opening the store of an integration

* `Backing` : whether a store lives in memory only or has a file behind it.
* `openFor` : the store that the settings ask for.
* `Backing.save` : saves a store; one in memory has nothing to save.
-/

set_option autoImplicit false

namespace Baseline

/-- What is behind a store. -/
inductive Backing where
  | memory
  | file (f : StoreFile)

namespace Backing

/-- Opens the store of a file. -/
def openFile (tree : FileTree) (time now : Double) (f : StoreFile) : DiskStep (Backing × Store) :=
  let step := f.openStore tree time now
  ⟨step.result.map fun s => (.file f, s), step.tree, step.log⟩

/-- Saves a store. -/
def save (tree : FileTree) (time : Double) (s : Store) : Backing → DiskStep Unit
  | memory => ⟨.ok (), tree, []⟩
  | file f => f.save tree time s

end Backing

/-- Removes the stale files of other instances, then opens the store of this one. -/
def StoreLocation.openCleaned (tree : FileTree) (time now : Double) (l : StoreLocation) :
    DiskStep (Backing × Store) :=
  let cleaned := l.cleanOld tree time now
  match cleaned.result with
  | .error e => ⟨.error e, cleaned.tree, cleaned.log⟩
  | .ok _ =>
    let opened := Backing.openFile cleaned.tree time now ⟨l.filePath, l.ttl⟩
    { opened with log := cleaned.log ++ opened.log }

/-- Opens the store that the settings ask for: in memory when nothing is to be kept, else at
an explicit path, else in the file of the instance, else in that of the integration. -/
def openFor (w : Surroundings) (tree : FileTree) (time now : Double) (name : String)
    (id : Option String) (settings : StoreSettings) : DiskStep (Backing × Store) :=
  let ttl := Value.int settings.ttlSeconds
  if !settings.persist then ⟨.ok (.memory, .empty), tree, []⟩
  else
    match present? settings.path with
    | some path => Backing.openFile tree time now ⟨Path.ofText path, ttl⟩
    | none =>
      match present? id with
      | some id =>
        match StoreLocation.make w name id settings.baseDir ttl with
        | .error e => ⟨.error e, tree, []⟩
        | .ok l => l.openCleaned tree time now
      | none =>
        match w.defaultPath name settings.baseDir with
        | .error e => ⟨.error e, tree, []⟩
        | .ok path => Backing.openFile tree time now ⟨path, ttl⟩

end Baseline
