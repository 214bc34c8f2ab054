import Baseline.Proofs.Sampling.Reading
import Baseline.Proofs.Store.Invariant
import Baseline.Store.Opening

/-!
# A store as two maps side by side

The samples of a store can also be kept in two maps, the values and the seconds of its keys.  Each
operation then changes one map after the other, and where it fails, what it has written so far
stays written.  Nothing shows that difference: the two maps are the columns of one table.

* `MapProgram` : a program on two maps, statement by statement.
* `MapProgram.set`, `MapProgram.delete`, `MapProgram.compute`, `MapProgram.save`,
  `MapProgram.load` : what is asked of a store, as such programs.
* `Snapshot.setsOnly` : setting a key changes both maps at that key, or neither at all.
* `StoreRequest.program_run` : **every request answers alike on a store and on its two maps, and
  leaves the same behind.**
* `maps_paired` : **after any requests the two maps have the same keys in the same order, none of
  them twice, and everything that is asked about keys agrees.**
-/

set_option autoImplicit false

namespace Baseline

/-! ## Two maps -/

/-- What two maps hold at a key: its value and its second, or zeros where one is missing. -/
def Snapshot.get (m : Snapshot) (key : String) : Double × Int × Bool :=
  match m.data.get? key, m.timestamps.get? key with
  | some value, some time => (value, time, true)
  | _, _ => (.zero, 0, false)

/-- The two maps hold the same keys in the same order, none of them twice. -/
structure Snapshot.Paired (m : Snapshot) : Prop where
  sameKeys : m.data.keys = m.timestamps.keys
  nodup : m.data.keys.Nodup

/-- A program on two maps.  A failure keeps what was written before it. -/
abbrev MapProgram (α : Type) := ExceptT Failure (StateM Snapshot) α

namespace MapProgram

/-- The outcome of a program, and the two maps that it leaves. -/
def outcome {α : Type} (p : MapProgram α) (m : Snapshot) : Except Failure α × Snapshot :=
  p.run.run m

/-- Records a raw value.  The clock is read and the value converted before anything is written,
then the value is written, and then its second. -/
def set (now : Double) (key : String) (raw : Value) : MapProgram Int := do
  let time ← (wholeSecond now).mapError Failure.fault
  let value ← raw.toDouble.mapError Failure.fault
  modify fun m => { m with data := m.data.put key value }
  modify fun m => { m with timestamps := m.timestamps.put key time }
  return time

/-- Forgets a key in one map and then in the other. -/
def delete (key : String) : MapProgram Unit := do
  modify fun m => { m with data := m.data.erase key }
  modify fun m => { m with timestamps := m.timestamps.erase key }

/-- Computes a metric.  One that is not sampled reports what it reports without a store; any other
is compared with what was there before it is set. -/
def compute (now : Double) (key : String) (raw declared : Value) : MapProgram Value :=
  match (⟨key, raw, declared⟩ : Reading).counted? with
  | none => (computeValue now none key raw declared).1
  | some (kind, value) => do
    let (oldValue, oldTime, found) := (← get).get key
    let time ← set now key (.float value)
    if found then
      let change ← compareSamples key kind ⟨oldValue, oldTime⟩ ⟨value, time⟩
      return .float change
    else return .float .zero

/-- Writes the text of the two maps to what is behind a store. -/
def save (backing : Backing) (tree : FileTree) (time : Double) : MapProgram Unit :=
  match backing with
  | .memory => return ()
  | .file f => do
    match tree.write time f.path (Text.encodeUtf8 (← get).toText) with
    | .ok _ => return ()
    | .error (.file e) => throw (.reported (.fileNotWritten f.path.text e))
    | .error other => throw (.fault other)

/-- Takes over the rows of a snapshot that have both a value and a second. -/
def load (s : Snapshot) : List (String × Double) → MapProgram Unit
  | [] => return ()
  | (key, value) :: rest => do
    match s.timestamps.get? key with
    | none => load s rest
    | some time =>
      modify fun m => { m with data := m.data.put key value }
      modify fun m => { m with timestamps := m.timestamps.put key time }
      load s rest

end MapProgram

/-- Setting a key in two maps changes nothing else: where it fails they stay as they are, and where
it succeeds the key has its new value and second, and all other rows stay. -/
structure Snapshot.SetsOnly (m : Snapshot) (now : Double) (key : String) (raw : Value) : Prop where
  failed : ∀ e after, (MapProgram.set now key raw).outcome m = (.error e, after) → after = m
  stored : ∀ time after, (MapProgram.set now key raw).outcome m = (.ok time, after) →
    ∃ value, wholeSecond now = .ok time ∧ raw.toDouble = .ok value ∧
      after.get key = (value, time, true) ∧
      after.data.erase key = m.data.erase key ∧
      after.timestamps.erase key = m.timestamps.erase key

/-- The two maps that opening fills with what it finds. -/
def Finding.maps : Finding → Snapshot
  | loaded s => ((MapProgram.load s s.data).outcome ⟨[], []⟩).2
  | _ => ⟨[], []⟩

/-- A store that was just made, and its two maps: it is empty, or it was found in a file. -/
inductive Opened : Snapshot → Store → Prop
  | empty : Opened ⟨[], []⟩ .empty
  | found {f : StoreFile} {tree : FileTree} {now : Double} {finding : Finding}
      (hfind : f.find tree now = .ok finding) : Opened finding.maps finding.store

/-! ## Requests -/

/-- What can be asked of an open store. -/
inductive StoreRequest where
  | set (now : Double) (key : String) (raw : Value)
  | delete (key : String)
  | get (key : String)
  | compute (now : Double) (key : String) (raw declared : Value)
  | snapshot
  | save (backing : Backing) (tree : FileTree) (time : Double)

/-- What a store answers. -/
inductive StoreAnswer where
  | done
  | time (time : Int)
  | sample (value : Double) (time : Int) (found : Bool)
  | value (value : Value)
  | maps (snapshot : Snapshot)

namespace StoreRequest

/-- The answer of a store, and the store that is left. -/
def perform (s : Store) : StoreRequest → Except Failure StoreAnswer × Store
  | set now key raw =>
    match s.set now key raw with
    | .ok (time, after) => (.ok (.time time), after)
    | .error f => (.error (.fault f), s)
  | delete key => (.ok .done, s.delete key)
  | get key =>
    let (value, time, found) := s.get key
    (.ok (.sample value time found), s)
  | compute now key raw declared =>
    let (result, after) := computeValue now (some s) key raw declared
    (result.map .value, after.getD s)
  | snapshot => (.ok (.maps s.snapshot), s)
  | save backing tree time => ((backing.save tree time s).result.map fun _ => .done, s)

/-- The same request as a program on two maps. -/
def program : StoreRequest → MapProgram StoreAnswer
  | set now key raw => return .time (← MapProgram.set now key raw)
  | delete key => do
    MapProgram.delete key
    return .done
  | get key => do
    let (value, time, found) := (← MonadState.get).get key
    return .sample value time found
  | compute now key raw declared => return .value (← MapProgram.compute now key raw declared)
  | snapshot => return .maps (← MonadState.get)
  | save backing tree time => do
    MapProgram.save backing tree time
    return .done

/-- The answers of a store to requests one after the other, and the store that is left.  A request
that fails does not keep the next ones from being made. -/
def performAll (s : Store) : List StoreRequest → List (Except Failure StoreAnswer) × Store
  | [] => ([], s)
  | q :: rest =>
    let step := q.perform s
    let more := performAll step.2 rest
    (step.1 :: more.1, more.2)

/-- The same on two maps. -/
def runAll (m : Snapshot) : List StoreRequest → List (Except Failure StoreAnswer) × Snapshot
  | [] => ([], m)
  | q :: rest =>
    let step := q.program.outcome m
    let more := runAll step.2 rest
    (step.1 :: more.1, more.2)

end StoreRequest

/-! ## Two maps are the columns of a table -/

namespace Store

theorem snapshot_put (s : Store) (key : String) (value : Double) (time : Int) :
    (Store.mk (s.rows.put key ⟨value, time⟩)).snapshot =
      ⟨s.snapshot.data.put key value, s.snapshot.timestamps.put key time⟩ := by
  simp only [snapshot, Table.map_put]

theorem snapshot_delete (s : Store) (key : String) :
    (s.delete key).snapshot = ⟨s.snapshot.data.erase key, s.snapshot.timestamps.erase key⟩ := by
  simp only [snapshot, delete, Table.map_erase]

theorem set_float (s : Store) (now : Double) (key : String) (value : Double) :
    s.set now key (.float value) = s.record now key value := by
  unfold set record
  cases wholeSecond now <;> rfl

theorem snapshot_get (s : Store) (key : String) : s.snapshot.get key = s.get key := by
  simp only [Snapshot.get, snapshot, Table.get?_map, get, sample?]
  cases s.rows.get? key <;> rfl

end Store

namespace MapProgram

/-- A program goes on with the maps that its first part leaves, unless that part fails. -/
theorem outcome_bind {α β : Type} (p : MapProgram α) (next : α → MapProgram β) (m : Snapshot) :
    (p >>= next).outcome m =
      match p.outcome m with
      | (.ok a, after) => (next a).outcome after
      | (.error e, after) => (.error e, after) := by
  unfold outcome
  rw [ExceptT.run_bind, StateT.run_bind]
  rcases p.run.run m with ⟨result, after⟩
  cases result <;> rfl

/-- A value is set in both maps, or in none. -/
theorem outcome_set_eq (m : Snapshot) (now : Double) (key : String) (raw : Value) :
    (set now key raw).outcome m =
      match wholeSecond now, raw.toDouble with
      | .ok time, .ok value => (.ok time, ⟨m.data.put key value, m.timestamps.put key time⟩)
      | .error f, _ => (.error (.fault f), m)
      | .ok _, .error f => (.error (.fault f), m) := by
  cases htime : wholeSecond now with
  | error f =>
    simp only [set, htime]
    rfl
  | ok time =>
    cases hvalue : raw.toDouble with
    | error f =>
      simp only [set, htime, hvalue]
      rfl
    | ok value =>
      simp only [set, htime, hvalue]
      rfl

theorem outcome_set (s : Store) (now : Double) (key : String) (raw : Value) :
    (set now key raw).outcome s.snapshot =
      match s.set now key raw with
      | .ok (time, after) => (.ok time, after.snapshot)
      | .error f => (.error (.fault f), s.snapshot) := by
  rw [outcome_set_eq]
  unfold Store.set Store.record
  cases wholeSecond now with
  | error f => rfl
  | ok time =>
    cases raw.toDouble with
    | error f => rfl
    | ok value =>
      dsimp only
      rw [Store.snapshot_put]

theorem outcome_delete (s : Store) (key : String) :
    (delete key).outcome s.snapshot = (.ok (), (s.delete key).snapshot) := by
  rw [Store.snapshot_delete]
  rfl

theorem outcome_save (s : Store) (backing : Backing) (tree : FileTree) (time : Double) :
    (save backing tree time).outcome s.snapshot =
      ((backing.save tree time s).result, s.snapshot) := by
  cases backing with
  | memory => rfl
  | file f =>
    have hsave : (save (.file f) tree time).outcome s.snapshot =
        (match tree.write time f.path (Text.encodeUtf8 s.snapshot.toText) with
          | .ok _ => return ()
          | .error (.file e) => throw (.reported (.fileNotWritten f.path.text e))
          | .error other => throw (.fault other) : MapProgram Unit).outcome s.snapshot := rfl
    rw [hsave, Backing.save, StoreFile.save]
    cases tree.write time f.path (Text.encodeUtf8 s.snapshot.toText) with
    | ok left => rfl
    | error fault => cases fault <;> rfl

/-- A sampled metric is compared with what the two maps held, and set in both. -/
theorem outcome_compute_counted {key : String} {raw declared : Value} {kind : SourceKind}
    {value : Double} (hcounted : (⟨key, raw, declared⟩ : Reading).counted? = some (kind, value))
    (s : Store) (now : Double) :
    (compute now key raw declared).outcome s.snapshot =
      ((sampleCounter now key value kind s).1.map .float,
        (sampleCounter now key value kind s).2.snapshot) := by
  simp only [compute, hcounted]
  rw [outcome_bind]
  have hget : outcome MonadState.get s.snapshot = (.ok s.snapshot, s.snapshot) := rfl
  rw [hget]
  dsimp only
  rw [outcome_bind, outcome_set, Store.set_float, Store.snapshot_get]
  unfold sampleCounter Store.get
  cases s.record now key value with
  | error f => rfl
  | ok recorded =>
    obtain ⟨time, after⟩ := recorded
    cases s.sample? key with
    | none => rfl
    | some old =>
      dsimp only
      rw [if_pos rfl, outcome_bind]
      cases compareSamples key kind old ⟨value, time⟩ <;> rfl

theorem outcome_compute (s : Store) (now : Double) (key : String) (raw declared : Value) :
    (compute now key raw declared).outcome s.snapshot =
      ((computeValue now (some s) key raw declared).1,
        ((computeValue now (some s) key raw declared).2.getD s).snapshot) := by
  cases hcounted : (⟨key, raw, declared⟩ : Reading).counted? with
  | none =>
    rw [Reading.computeValue_not_counted hcounted]
    simp only [compute, hcounted]
    rfl
  | some counted =>
    obtain ⟨kind, value⟩ := counted
    obtain ⟨hkind, hvalue, hsampled⟩ := Reading.counted?_eq_some.mp hcounted
    rw [outcome_compute_counted hcounted, computeValue_sampled hkind hsampled, hvalue]
    rfl

end MapProgram

/-- **Every request answers alike on a store and on its two maps, and leaves the same behind.** -/
theorem StoreRequest.program_run (q : StoreRequest) (s : Store) :
    q.program.outcome s.snapshot = ((q.perform s).1, (q.perform s).2.snapshot) := by
  cases q with
  | set now key raw =>
    rw [program, MapProgram.outcome_bind, MapProgram.outcome_set, perform]
    cases s.set now key raw <;> rfl
  | delete key =>
    rw [program, MapProgram.outcome_bind, MapProgram.outcome_delete]
    rfl
  | get key =>
    rw [program, perform, ← Store.snapshot_get]
    rfl
  | compute now key raw declared =>
    rw [program, MapProgram.outcome_bind, MapProgram.outcome_compute, perform]
    rcases computeValue now (some s) key raw declared with ⟨result, after⟩
    cases result <;> rfl
  | snapshot => rfl
  | save backing tree time =>
    rw [program, MapProgram.outcome_bind, MapProgram.outcome_save, perform]
    cases (backing.save tree time s).result <;> rfl

/-! ## Runs of requests -/

namespace StoreRequest

/-- Requests one after the other are answered alike, and leave the same behind. -/
theorem runAll_eq (requests : List StoreRequest) (s : Store) :
    runAll s.snapshot requests =
      ((performAll s requests).1, (performAll s requests).2.snapshot) := by
  induction requests generalizing s with
  | nil => rfl
  | cons q rest ih =>
    rw [runAll, performAll, program_run]
    dsimp only
    rw [ih]

theorem fileable_perform {s : Store} (hs : s.Fileable) (q : StoreRequest) :
    (q.perform s).2.Fileable := by
  cases q with
  | set now key raw =>
    rw [perform]
    split
    · rename_i hset
      exact hs.set hset
    · exact hs
  | delete key => exact hs.delete key
  | get key => exact hs
  | compute now key raw declared =>
    rw [perform]
    rcases computeValue_store now s key raw declared with h | ⟨value, t, after, _, hrecord, h⟩
    · dsimp only
      rw [h]
      exact hs
    · dsimp only
      rw [h]
      exact hs.record hrecord
  | snapshot => exact hs
  | save backing tree time => exact hs

theorem fileable_performAll {s : Store} (hs : s.Fileable) (requests : List StoreRequest) :
    (performAll s requests).2.Fileable := by
  induction requests generalizing s with
  | nil => exact hs
  | cons q rest ih => exact ih (fileable_perform hs q)

end StoreRequest

/-! ## Opening -/

namespace MapProgram

/-- Loading appends the rows that have both a value and a second. -/
theorem outcome_load (s : Snapshot) (rows : List (String × Double)) (before : Store)
    (hnodup : (before.keys ++ rows.map (·.1)).Nodup) :
    (load s rows).outcome before.snapshot =
      (.ok (), (Store.mk (before.rows ++ rows.filterMap fun r =>
        (s.timestamps.get? r.1).map fun t => (r.1, ⟨r.2, t⟩))).snapshot) := by
  induction rows generalizing before with
  | nil =>
    rw [List.filterMap_nil, List.append_nil]
    rfl
  | cons r rest ih =>
    obtain ⟨key, value⟩ := r
    rw [List.map_cons] at hnodup
    rw [load, List.filterMap_cons]
    cases htime : s.timestamps.get? key with
    | none =>
      have hrest := (List.sublist_cons_self key (rest.map (·.1))).append_left before.keys
      exact ih before (hnodup.sublist hrest)
    | some time =>
      have hfresh : key ∉ before.keys := fun hkey =>
        (List.nodup_append.mp hnodup).2.2 key hkey key List.mem_cons_self rfl
      have hput : before.rows.put key ⟨value, time⟩ = before.rows ++ [(key, ⟨value, time⟩)] :=
        Table.put_of_notMem _ hfresh
      have hwrite := ih ⟨before.rows.put key ⟨value, time⟩⟩ (by
        rw [Store.keys, hput, Table.keys, List.map_append, List.append_assoc]
        exact hnodup)
      rw [Store.snapshot_put, hput, List.append_assoc] at hwrite
      exact hwrite

end MapProgram

/-- Opening fills the two maps with the columns of the store. -/
theorem Finding.maps_eq_snapshot {f : StoreFile} {tree : FileTree} {now : Double}
    {finding : Finding} (h : f.find tree now = .ok finding) : finding.maps = finding.store.snapshot := by
  cases finding with
  | loaded s =>
    have hload := MapProgram.outcome_load s s.data .empty
      (Store.fileable_of_find_loaded h).dataKeys
    exact congrArg Prod.snd hload
  | _ => rfl

theorem Opened.eq_snapshot {m : Snapshot} {s : Store} (h : Opened m s) :
    m = s.snapshot ∧ s.Fileable := by
  cases h with
  | empty => exact ⟨rfl, .empty⟩
  | found hfind => exact ⟨Finding.maps_eq_snapshot hfind, Store.fileable_of_find hfind⟩

/-- Whatever opening a store file gives begins so. -/
theorem Opened.of_openStore {f : StoreFile} {tree : FileTree} {time now : Double} {s : Store}
    (h : (f.openStore tree time now).result = .ok s) : ∃ m, Opened m s := by
  rw [StoreFile.openStore_eq] at h
  split at h
  · cases h
  · split at h
    · cases h
    · rename_i hfind
      cases h
      exact ⟨_, .found hfind⟩

/-! ## What the two maps have in common -/

theorem Store.Fileable.paired {s : Store} (hs : s.Fileable) : s.snapshot.Paired where
  sameKeys := by simp only [Store.snapshot, Table.keys_map]
  nodup := hs.snapshot.dataKeys

theorem Store.get_found_iff (s : Store) (key : String) :
    (s.get key).2.2 = true ↔ key ∈ s.keys := by
  rw [Store.keys, ← Table.get?_isSome_iff, Store.get, Store.sample?]
  cases s.rows.get? key <;> simp

theorem Snapshot.setsOnly (m : Snapshot) (now : Double) (key : String) (raw : Value) :
    m.SetsOnly now key raw := by
  constructor
  · intro e after h
    rw [MapProgram.outcome_set_eq] at h
    split at h
    · cases h
    · cases h
      rfl
    · cases h
      rfl
  · intro time after h
    rw [MapProgram.outcome_set_eq] at h
    split at h
    · rename_i value htime hvalue
      cases h
      refine ⟨value, htime, hvalue, ?_, Table.erase_put _ _ _, Table.erase_put _ _ _⟩
      rw [Snapshot.get, Table.get?_put_self, Table.get?_put_self]
    · cases h
    · cases h

/-- **The two maps of a store stay paired.**  After any requests to a store that was just made, some
of which may have failed, the two maps have given the same answers as the store and hold its
columns: they have the same keys in the same order, none of them twice.  A key is found exactly if
it is one of the keys, and is contained exactly if it is; the size is the number of keys; a snapshot
has these keys in both maps; and setting a key changes this key at most. -/
theorem maps_paired {m₀ : Snapshot} {s₀ : Store} (hopened : Opened m₀ s₀)
    (requests : List StoreRequest) :
    ∃ answers m s, StoreRequest.runAll m₀ requests = (answers, m) ∧
      StoreRequest.performAll s₀ requests = (answers, s) ∧ s.snapshot = m ∧ m.Paired ∧
      s.keys = m.data.keys ∧ s.size = s.keys.length ∧
      (∀ key, s.get key = m.get key ∧ ((s.get key).2.2 = true ↔ key ∈ s.keys) ∧
        (s.contains key = true ↔ key ∈ s.keys)) ∧
      ∀ now key raw, m.SetsOnly now key raw := by
  obtain ⟨rfl, hs⟩ := hopened.eq_snapshot
  refine ⟨_, _, _, StoreRequest.runAll_eq requests s₀, rfl, rfl,
    (StoreRequest.fileable_performAll hs requests).paired, ?_, ?_, ?_, ?_⟩
  · rw [Store.keys, Store.snapshot, Table.keys_map]
  · exact (List.length_map _).symm
  · intro key
    exact ⟨(Store.snapshot_get _ key).symm, Store.get_found_iff _ key, Table.get?_isSome_iff key _⟩
  · exact Snapshot.setsOnly _

/-! ### A file whose maps differ -/

namespace Unpaired

/-- A value without a second, and a second without a value. -/
def snapshot : Snapshot := ⟨[("a", .one), ("b", .one)], [("c", 990), ("b", 990)]⟩

/-- The tree in which a file holds this. -/
def found : FileTree :=
  ⟨[(["s.json"], .file (Text.encodeUtf8 snapshot.toText) (.ofWhole 1000))]⟩

/-- Setting no number, setting at no time, and saving where there is a directory fail. -/
def requests : List StoreRequest := [
  .set (.ofWhole 1010) "a" (.text "one"),
  .set .nan "b" (.int 5),
  .compute (.ofWhole 1010) "b" (.int 5) (.kind .delta),
  .save (.file ⟨⟨.root, []⟩, .int 60⟩) found (.ofWhole 1010),
  .delete "b"]

theorem find_found : minuteFile.find found (.ofWhole 1000) = .ok (.loaded snapshot) :=
  Snapshot.eq_ok_of_toOption (by decide +kernel)

end Unpaired

open Unpaired in
theorem maps_paired_unpaired :
    Opened (Finding.loaded snapshot).maps (Finding.loaded snapshot).store ∧
      ∃ answers m s, StoreRequest.runAll (Finding.loaded snapshot).maps requests = (answers, m) ∧
        StoreRequest.performAll (Finding.loaded snapshot).store requests = (answers, s) ∧
        s.snapshot = m ∧ m.Paired ∧ s.keys = m.data.keys ∧ s.size = s.keys.length ∧
        (∀ key, s.get key = m.get key ∧ ((s.get key).2.2 = true ↔ key ∈ s.keys) ∧
          (s.contains key = true ↔ key ∈ s.keys)) ∧
        ∀ now key raw, m.SetsOnly now key raw :=
  ⟨.found find_found, maps_paired (.found find_found) requests⟩

end Baseline
