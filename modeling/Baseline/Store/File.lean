import Baseline.FileTree.Basic
import Baseline.Log.Record
import Baseline.Store.Snapshot
import Baseline.Failure
import Baseline.Value.Order

/-!
# Stores backed by a file

A store may be backed by a snapshot file, which is read once when the store is opened and
written whenever it is saved.  A snapshot is trusted only while it is fresh: one that was
written longer ago than the time to live is ignored.  A file that is missing, stale,
unreadable or malformed never keeps a store from opening; the store then starts empty.

* `StoreFile.find` : what opening finds at the path of a store.
* `Finding.store`, `Finding.log` : the store that this gives, and what is told about it.
* `StoreFile.openStore` : makes the directory of a store file and opens the store.
* `StoreFile.findBy`, `StoreFile.openStoreBy` : the same under another validator of the bytes.
* `StoreFile.save` : writes a store to its file.
-/

set_option autoImplicit false

namespace Baseline

/-- The file behind a store, and the age in seconds up to which its content is trusted. -/
structure StoreFile where
  path : Path
  ttl : Value

/-- What opening a store finds at its path. -/
inductive Finding where
  | nothing
  | stale (age : Double)
  | unreadable (error : FileError)
  | malformed (count : Nat)
  | loaded (snapshot : Snapshot)
deriving DecidableEq, Repr

namespace Finding

/-- The store that a finding gives. -/
def store : Finding → Store
  | loaded snapshot => Store.ofSnapshot snapshot
  | _ => .empty

end Finding

namespace StoreFile

/-- The logger of this module. -/
def loggerName : String := "collector_sdk.persist.store"

/-- A record about a store file. -/
def note (f : StoreFile) (level : Level) (message : String) (fields : List (String × Value)) :
    LogRecord where
  logger := loggerName
  level := level
  message := message
  fields := ("path", .text f.path.text) :: fields

/-- The records about a finding. -/
def findingLog (f : StoreFile) : Finding → List LogRecord
  | .nothing => []
  | .stale age => [f.note Level.info "Store file is older than TTL, skipping loading from disk"
      [("age_seconds", .float age), ("ttl", f.ttl)]]
  | .unreadable e => [f.note Level.warning "Store file cannot be read, starting empty"
      [("error", .text e.message)]]
  | .malformed n => [f.note Level.warning "Store file cannot be parsed, starting empty"
      [("error", .text (Snapshot.refusal n))]]
  | .loaded s =>
    (if s.orphans.isEmpty then [] else
      [f.note Level.debug "Dropping store entries without a value or timestamp"
        [("keys", .list (s.orphans.map .text))]]) ++
    [f.note Level.debug "Store loaded from disk" [("entries", .int (Store.ofSnapshot s).size)]]

/-- Reads the bytes of a file as a snapshot, or tells how many places in them are wrong. -/
abbrev Validator := List UInt8 → Except Nat Snapshot

/-- What a file is found to hold, under a validator. -/
def findContentBy (validate : Validator) (tree : FileTree) (f : StoreFile) :
    Except Failure Finding :=
  match tree.read f.path with
  | .error (.file e) => .ok (.unreadable e)
  | .error other => .error (.fault other)
  | .ok bytes =>
    match validate bytes with
    | .ok s => .ok (.loaded s)
    | .error n => .ok (.malformed n)

/-- What a file is found to hold. -/
def findContent (tree : FileTree) (f : StoreFile) : Except Failure Finding :=
  f.findContentBy Snapshot.ofBytes tree

/-- The age of a file that was last written at a time. -/
def age (now written : Double) : Double := now.sub written

/-- What opening finds at the path of a store file, under a validator. -/
def findBy (validate : Validator) (tree : FileTree) (now : Double) (f : StoreFile) :
    Except Failure Finding :=
  match tree.stat f.path with
  | .error (.file e) =>
    if e.cause = .noEntry then .ok .nothing
    else .error (.reported (.fileNotInspected f.path.text e))
  | .error other => .error (.fault other)
  | .ok stat =>
    match Value.relates .greater (.float (age now stat.time)) f.ttl with
    | .error fault => .error (.fault fault)
    | .ok true => .ok (.stale (age now stat.time))
    | .ok false => f.findContentBy validate tree

/-- What opening finds at the path of a store file. -/
def find (tree : FileTree) (now : Double) (f : StoreFile) : Except Failure Finding :=
  f.findBy Snapshot.ofBytes tree now

end StoreFile

/-- An operation on files, done: its result, the tree that it leaves and what it told. -/
structure DiskStep (α : Type) where
  result : Except Failure α
  tree : FileTree
  log : List LogRecord

namespace StoreFile

/-- The failure to make the directory of a store file. -/
def directoryFailure (f : StoreFile) : Fault → Failure
  | .file e => .reported (.directoryNotCreated f.path.text f.path.parent.text e)
  | other => .fault other

/-- Makes the directory of a store file if it is missing, and opens the store, under a validator.
`time` is when new directories are made, `now` what the clock of the store says. -/
def openStoreBy (validate : Validator) (tree : FileTree) (time now : Double) (f : StoreFile) :
    DiskStep Store :=
  match tree.makeDirectories time f.path.parent with
  | (.error fault, tree) => ⟨.error (f.directoryFailure fault), tree, []⟩
  | (.ok (), tree) =>
    match f.findBy validate tree now with
    | .error failure => ⟨.error failure, tree, []⟩
    | .ok finding => ⟨.ok finding.store, tree, f.findingLog finding⟩

/-- Makes the directory of a store file if it is missing, and opens the store. -/
def openStore (tree : FileTree) (time now : Double) (f : StoreFile) : DiskStep Store :=
  f.openStoreBy Snapshot.ofBytes tree time now

/-! ### Unfolding -/

theorem findContent_eq (tree : FileTree) (f : StoreFile) :
    findContent tree f =
      match tree.read f.path with
      | .error (.file e) => .ok (.unreadable e)
      | .error other => .error (.fault other)
      | .ok bytes =>
        match Snapshot.ofBytes bytes with
        | .ok s => .ok (.loaded s)
        | .error n => .ok (.malformed n) := rfl

theorem find_eq (tree : FileTree) (now : Double) (f : StoreFile) :
    f.find tree now =
      match tree.stat f.path with
      | .error (.file e) =>
        if e.cause = .noEntry then .ok .nothing
        else .error (.reported (.fileNotInspected f.path.text e))
      | .error other => .error (.fault other)
      | .ok stat =>
        match Value.relates .greater (.float (age now stat.time)) f.ttl with
        | .error fault => .error (.fault fault)
        | .ok true => .ok (.stale (age now stat.time))
        | .ok false => findContent tree f := rfl

theorem openStore_eq (tree : FileTree) (time now : Double) (f : StoreFile) :
    f.openStore tree time now =
      match tree.makeDirectories time f.path.parent with
      | (.error fault, tree) => ⟨.error (f.directoryFailure fault), tree, []⟩
      | (.ok (), tree) =>
        match f.find tree now with
        | .error failure => ⟨.error failure, tree, []⟩
        | .ok finding => ⟨.ok finding.store, tree, f.findingLog finding⟩ := rfl

/-! ### Saving -/

/-- Writes a store to its file. -/
def save (tree : FileTree) (time : Double) (f : StoreFile) (s : Store) : DiskStep Unit :=
  match tree.write time f.path (Text.encodeUtf8 s.snapshot.toText) with
  | .ok tree => ⟨.ok (), tree, [f.note Level.debug "Store saved" [("entries", .int s.size)]]⟩
  | .error (.file e) =>
    ⟨.error (.reported (.fileNotWritten f.path.text e)), tree,
      [f.note Level.error "Failed to save store" [("error", .text e.message)]]⟩
  | .error other => ⟨.error (.fault other), tree, []⟩

end StoreFile

end Baseline
