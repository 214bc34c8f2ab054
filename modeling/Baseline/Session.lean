import Baseline.FileTree.Text
import Baseline.FileTree.Time
import Baseline.Host
import Baseline.Integration

/-!
# Sessions

A session is everything that a collector process holds: its clock and its surroundings, the
file tree, and the stores, metric sets, integrations and locations that were opened under a
name.  Several sets may share a store, so stores are kept apart from the names that lead to
them: opening another store under a name leaves the earlier one to the sets that use it.

* `Session.start` : a session that has opened nothing.
* `SessionStep` : what a step gives: its result, the session after it, and what it told.
* steps on the clock, the surroundings, files, stores, locations, sets and integrations.

A step that fails leaves the names as they were.
-/

set_option autoImplicit false

namespace Baseline

/-- A store that is open.  `sharesClock` tells whether it reads the clock of the session itself
rather than that of the system, which shows the same time. -/
structure OpenStore where
  backing : Backing
  store : Store
  sharesClock : Bool

/-- A metric set that is open, with the number of its store and of the integration whose lock
it takes. -/
structure OpenSet where
  set : MetricSet
  store : Option Nat
  lock : Option Nat

/-- An integration that is open, with the number of its store and the locks of its sets. -/
structure OpenIntegration where
  integration : Integration
  store : Nat
  lock : Option Nat
  setLocks : List (Option Nat)

/-- Everything that a collector process holds. -/
structure Session where
  clock : Double
  surroundings : Surroundings
  /-- When files and directories are made, as the file system sees it. -/
  present : Double
  tree : FileTree
  stores : List OpenStore
  storeNames : Table Nat
  locations : Table StoreLocation
  sets : Table OpenSet
  integrations : Table OpenIntegration
  /-- How many integrations were opened so far. -/
  opened : Nat

/-- A step of a session, done. -/
structure SessionStep (α : Type) where
  result : Except Failure α
  session : Session
  log : List LogRecord

namespace Session

/-- A session that has opened nothing. -/
def start (clock present : Double) (surroundings : Surroundings) (tree : FileTree) : Session where
  clock := clock
  surroundings := surroundings
  present := present
  tree := tree
  stores := []
  storeNames := []
  locations := []
  sets := []
  integrations := []
  opened := 0

/-- A step that changes nothing. -/
def answer {α : Type} (s : Session) (result : Except Failure α) : SessionStep α := ⟨result, s, []⟩

/-- The outcome of something that can only fault. -/
def lifted {α : Type} (r : Except Fault α) : Except Failure α := r.mapError .fault

/-- What stands under a name in a table of the session. -/
def named {α : Type} (name : String) (t : Table α) : Except Failure α :=
  match t.get? name with
  | some a => .ok a
  | none => .error (.fault (.missingKey (Text.quoted name)))

/-! ## Clock and surroundings -/

/-- Pins the clock to a time. -/
def setClock (s : Session) (time : Value) : SessionStep Double :=
  match time.toDouble with
  | .ok t => ⟨.ok t, { s with clock := t }, []⟩
  | .error f => s.answer (.error (.fault f))

/-- The seconds by which a clock may be moved: a number that is no decimal. -/
def seconds (delta : Value) : Except Fault Double :=
  match delta with
  | .bool _ => delta.toDouble
  | .int _ => delta.toDouble
  | .float x => .ok x
  | v => .error (.unsupportedOperands "+=" "float" v.fullTypeName)

/-- Moves the clock. -/
def advanceClock (s : Session) (delta : Value) : SessionStep Double :=
  match seconds delta with
  | .ok d => ⟨.ok (s.clock.add d), { s with clock := s.clock.add d }, []⟩
  | .error f => s.answer (.error (.fault f))

/-- Sets a variable, or removes it. -/
def setVariable (s : Session) (name : String) (value : Option String) : SessionStep Unit :=
  let env : Environment := match value with
    | some v => Table.put name v s.surroundings.environment
    | none => Table.erase name s.surroundings.environment
  ⟨.ok (), { s with surroundings := { s.surroundings with environment := env } }, []⟩

/-! ## Files -/

/-- The first second that a file time cannot show. -/
def fileTimeBound : Double := Double.ofDecimal false 2147483648 0

/-- The time of the clock as a file time; outside the range of file times it is zero. -/
def clockFileTime (s : Session) : Double :=
  if !s.clock.less .zero && s.clock.less fileTimeBound then s.clock else .zero

/-- The time that a file is to show. -/
def fileTime (s : Session) (time : Option Double) : Double :=
  FileTime.stored (time.getD s.clockFileTime)

/-- Ends a step on files with the time that a file is to show. -/
def stamped (s : Session) (p : Path) (time : Option Double) (tree : FileTree) : SessionStep Unit :=
  match tree.setTime p (s.fileTime time) with
  | .ok tree => ⟨.ok (), { s with tree := tree }, []⟩
  | .error f => ⟨.error (.fault f), { s with tree := tree }, []⟩

/-- Writes a file, with the directories that lead to it. -/
def writeFile (s : Session) (p : Path) (content : List UInt8) (time : Option Double) :
    SessionStep Unit :=
  match s.tree.makeDirectories s.present p.parent with
  | (.error f, tree) => ⟨.error (.fault f), { s with tree := tree }, []⟩
  | (.ok (), tree) =>
    match tree.write s.present p content with
    | .error f => ⟨.error (.fault f), { s with tree := tree }, []⟩
    | .ok tree => s.stamped p time tree

/-- Makes a directory, with those that lead to it. -/
def makeDirectory (s : Session) (p : Path) (time : Option Double) : SessionStep Unit :=
  match s.tree.makeDirectories s.present p with
  | (.error f, tree) => ⟨.error (.fault f), { s with tree := tree }, []⟩
  | (.ok (), tree) => s.stamped p time tree

/-- Sets the time that a file shows. -/
def setFileTime (s : Session) (p : Path) (time : Option Double) : SessionStep Unit :=
  s.stamped p time s.tree

/-- Makes a symbolic link. -/
def makeLink (s : Session) (p : Path) (target : String) : SessionStep Unit :=
  match s.tree.link s.present p target with
  | .ok tree => ⟨.ok (), { s with tree := tree }, []⟩
  | .error f => s.answer (.error (.fault f))

/-- The text of a file. -/
def readText (s : Session) (p : Path) : Except Failure String :=
  (s.tree.readText p).mapError .fault

/-- The paths of all files below a directory, relative to it; directories end in a slash. -/
def listFiles (s : Session) (dir : NodeName) : List String :=
  (s.tree.nodes.filterMap fun n =>
    if dir.isPrefixOf n.1 ∧ n.1 ≠ dir then
      let path := String.intercalate "/" (n.1.drop dir.length)
      match n.2 with
      | .directory _ => some (path ++ "/")
      | _ => some path
    else none).mergeSort (· ≤ ·)

/-! ## Stores -/

/-- Opens a store under a name. -/
def addStore (s : Session) (name : String) (o : OpenStore) : Session :=
  { s with stores := s.stores ++ [o], storeNames := s.storeNames.put name s.stores.length }

/-- The open store with a number. -/
def storeAt (s : Session) (n : Nat) : OpenStore := s.stores.getD n ⟨.memory, .empty, true⟩

/-- The number of the store under a name. -/
def storeNumber (s : Session) (name : String) : Except Failure Nat := named name s.storeNames

/-- Replaces the content of the store with a number. -/
def putStore (s : Session) (n : Nat) (store : Store) : Session :=
  { s with stores := s.stores.modify n fun o => { o with store := store } }

/-- Ends a step that opens a store under a name. -/
def openedAs (s : Session) (name : String) (sharesClock : Bool)
    (step : DiskStep (Backing × Store)) : SessionStep OpenStore :=
  let after := { s with tree := step.tree }
  match step.result with
  | .error e => ⟨.error e, after, step.log⟩
  | .ok (backing, store) =>
    let o : OpenStore := ⟨backing, store, sharesClock⟩
    ⟨.ok o, after.addStore name o, step.log⟩

/-- Opens a store in memory. -/
def openMemory (s : Session) (name : String) (sharesClock : Bool) : SessionStep OpenStore :=
  s.openedAs name sharesClock ⟨.ok (.memory, .empty), s.tree, []⟩

/-- Opens the store of a file. -/
def openFile (s : Session) (name : String) (sharesClock : Bool) (path : Path) (ttl : Value) :
    SessionStep OpenStore :=
  s.openedAs name sharesClock (Backing.openFile s.tree s.present s.clock ⟨path, ttl⟩)

/-- Opens the store that settings ask for. -/
def openIntegrationStore (s : Session) (name : String) (sharesClock : Bool)
    (integration : String) (id : Option String) (settings : StoreSettings) :
    SessionStep OpenStore :=
  s.openedAs name sharesClock
    (openFor s.surroundings s.tree s.present s.clock integration id settings)

/-- Records a raw value in the store with a number. -/
def setValue (s : Session) (n : Nat) (key : String) (raw : Value) : SessionStep Int :=
  match (s.storeAt n).store.set s.clock key raw with
  | .ok (time, store) => ⟨.ok time, s.putStore n store, []⟩
  | .error f => s.answer (.error (.fault f))

/-- Forgets a key of the store with a number. -/
def deleteKey (s : Session) (n : Nat) (key : String) : Session :=
  s.putStore n ((s.storeAt n).store.delete key)

/-- Whether a store holds a value as a key. -/
def holdsKey (store : Store) (key : Value) : Except Failure Bool :=
  if !key.isHashable then .error (.fault (.unhashable key.fullTypeName))
  else
    match key.text? with
    | some k => .ok (store.contains k)
    | none => .ok false

/-- The text of a file after it was saved. -/
def savedText (s : Session) (backing : Backing) : Except Failure (Option String) :=
  match backing with
  | .memory => .ok none
  | .file f => (s.readText f.path).map some

/-- Ends a step that saved a store: the file shows a time, and its text is the result. -/
def savedAs (s : Session) (backing : Backing) (time : Option Double) (step : DiskStep Unit) :
    SessionStep (Option String) :=
  match step.result, backing with
  | .error e, _ => ⟨.error e, { s with tree := step.tree }, step.log⟩
  | .ok (), .memory => ⟨.ok none, { s with tree := step.tree }, step.log⟩
  | .ok (), .file f =>
    let after := s.stamped f.path time step.tree
    match after.result with
    | .error e => ⟨.error e, after.session, step.log⟩
    | .ok () => ⟨after.session.savedText backing, after.session, step.log⟩

/-- Saves the store with a number. -/
def saveStore (s : Session) (n : Nat) (time : Option Double) : SessionStep (Option String) :=
  let o := s.storeAt n
  s.savedAs o.backing time (o.backing.save s.tree s.present o.store)

/-- Computes the reported value of a metric. -/
def compute (s : Session) (store : Option Nat) (key : String) (raw declared : Value) :
    SessionStep Value :=
  let (result, after) :=
    computeValue s.clock (store.map fun n => (s.storeAt n).store) key raw declared
  match store, after with
  | some n, some content => ⟨result, s.putStore n content, []⟩
  | _, _ => s.answer result

/-! ## Locations -/

/-- Notes the location of an instance under a name. -/
def addLocation (s : Session) (id name instanceId : String) (explicit : Option String)
    (ttl : Value) : SessionStep StoreLocation :=
  match StoreLocation.make s.surroundings name instanceId explicit ttl with
  | .error e => s.answer (.error e)
  | .ok l => ⟨.ok l, { s with locations := s.locations.put id l }, []⟩

/-- The stale files of other instances. -/
def findOld (s : Session) (l : StoreLocation) : SessionStep (List Path) :=
  match l.findOld s.tree s.clock with
  | .ok old => ⟨.ok old, s, l.oldLog old⟩
  | .error f => s.answer (.error (.fault f))

/-- Removes the stale files of other instances. -/
def cleanOld (s : Session) (l : StoreLocation) : SessionStep (List Path) :=
  let step := l.cleanOld s.tree s.present s.clock
  ⟨step.result, { s with tree := step.tree }, step.log⟩

/-! ## Metric sets -/

/-- Makes a metric set under a name. -/
def addSet (s : Session) (id eventType : String) (attributes : List Attribute)
    (store lock : Option Nat) : SessionStep OpenSet :=
  match MetricSet.make eventType attributes with
  | .error f => s.answer (.error (.fault f))
  | .ok m =>
    let o : OpenSet := ⟨m, store, lock⟩
    ⟨.ok o, { s with sets := s.sets.put id o }, []⟩

/-- The content of the store of a set. -/
def setStore (s : Session) (o : OpenSet) : Option Store :=
  o.store.map fun n => (s.storeAt n).store

/-- Puts back a set and its store. -/
def putSet (s : Session) (id : String) (o : OpenSet) (m : MetricSet) (store : Option Store) :
    Session :=
  let after := match o.store, store with
    | some n, some content => s.putStore n content
    | _, _ => s
  { after with sets := after.sets.put id { o with set := m } }

/-- Reports one metric on the set under a name. -/
def setMetric (s : Session) (id : String) (o : OpenSet) (name : String) (raw declared : Value) :
    SessionStep Unit :=
  let step := MetricSet.setMetric s.clock (s.setStore o) o.set name raw declared
  ⟨step.result, s.putSet id o step.set step.store, []⟩

/-- Ends a collection on the set under a name. -/
def collected (s : Session) (id : String) (o : OpenSet) (c : MetricSet.Collection) :
    SessionStep (Table CollectorError) :=
  ⟨match c.fault with
    | some e => .error e
    | none => .ok c.errors, s.putSet id o c.set c.store, c.log⟩

/-- Reports all defined metrics on the set under a name. -/
def setMetrics (s : Session) (id : String) (o : OpenSet) (values : Value)
    (definitions : List MetricDefinition) : SessionStep (Table CollectorError) :=
  s.collected id o (o.set.setMetricsFrom s.clock (s.setStore o) values definitions)

/-- Reports a reading of the host on the set under a name. -/
def collectReading (s : Session) (id : String) (o : OpenSet) (reading : HostReading) :
    SessionStep (Table CollectorError) :=
  s.collected id o (collectHost s.clock (s.setStore o) o.set reading)

/-! ## Integrations -/

/-- Keeps an integration with its store under a name. -/
def keepIntegration (s : Session) (id : String) (i : Integration) (store : Nat) :
    SessionStep OpenIntegration :=
  let o : OpenIntegration :=
    ⟨i, store, if i.synchronized then some s.opened else none, []⟩
  ⟨.ok o, { s with
    integrations := s.integrations.put id o
    storeNames := s.storeNames.put id store
    opened := s.opened + 1 }, []⟩

/-- Opens an integration under a name, on a store that is open already or on the one that its
settings ask for. -/
def openIntegration (s : Session) (id name version : String) (settings : Settings)
    (store : Option Nat) (instanceId : Option String) (synchronized sharesClock : Bool) :
    SessionStep OpenIntegration :=
  match Integration.make name version settings synchronized with
  | .error e => s.answer (.error e)
  | .ok i =>
    match store with
    | some n => s.keepIntegration id i n
    | none =>
      let step := s.openIntegrationStore id sharesClock name instanceId settings.store
      match step.result with
      | .error e => ⟨.error e, step.session, step.log⟩
      | .ok _ =>
        { step.session.keepIntegration id i s.stores.length with log := step.log }

/-- Makes a metric set of an integration. -/
def addIntegrationSet (s : Session) (id eventType : String) (attributes : List Attribute)
    (owner : String) (o : OpenIntegration) : SessionStep OpenSet :=
  let step := s.addSet id eventType attributes (some o.store) o.lock
  match step.result with
  | .error e => ⟨.error e, step.session, step.log⟩
  | .ok made =>
    let kept : OpenIntegration :=
      { o with integration := o.integration.addSet eventType, setLocks := o.setLocks ++ [o.lock] }
    ⟨.ok made, { step.session with integrations := step.session.integrations.put owner kept },
      step.log⟩

/-- Whether all sets of an integration take the same lock. -/
def sharesLock (o : OpenIntegration) : Bool := o.setLocks.all (· == o.lock)

/-- Saves the store of an integration. -/
def saveIntegration (s : Session) (o : OpenIntegration) (time : Option Double) :
    SessionStep (Option String) :=
  let held := s.storeAt o.store
  s.savedAs held.backing time (o.integration.save s.tree s.present held.backing held.store)

end Session

end Baseline
