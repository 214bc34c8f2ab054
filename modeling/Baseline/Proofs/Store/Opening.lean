import Baseline.Proofs.FileTree.Grown
import Baseline.Proofs.Store.File

/-!
# Opening a store on any tree

Whatever stands on the disk, a store opens or the opening fails with a report.

* `Snapshot.Validates` : the bytes of a file are a JSON object that is valid as a snapshot.
* `Store.keys_ofSnapshot`, `Store.sample?_ofSnapshot` : what is kept of the two maps of a file.
* `StoreFile.Holds` : what a store holds after opening, by what stands at its path.
* `StoreFile.Blocked` : what keeps a store from opening.
* `StoreFile.findBy_spec` : what is found at the path of a store.
* `StoreFile.Validator.KeepsKeysApart` : what is asked of the validator of a file.
* `StoreFile.openStoreBy_spec` : how the opening ends.
* `openStore_safe` : **a store that is not blocked opens with what its file holds, a blocked one is
  reported, and at most the directories above its file are made.**
-/

set_option autoImplicit false

namespace Baseline

/-! ## The bytes of a file -/

namespace Snapshot

/-- The bytes of a file are a JSON object whose two maps are valid: this is the snapshot that they
make. -/
structure Validates (bytes : List UInt8) (s : Snapshot) : Prop where
  object : ∃ text fields, Text.decodeUtf8? bytes = some text ∧
    Json.readBy? rules nestLimit text.toList = some (.object fields) ∧
    table double? "Data" "data" fields = .ok s.data ∧
    table second? "Timestamps" "timestamps" fields = .ok s.timestamps

theorem ofJson_eq_ok {j : Json} {s : Snapshot} :
    ofJson j = .ok s ↔ ∃ fields, j = .object fields ∧
      table double? "Data" "data" fields = .ok s.data ∧
      table second? "Timestamps" "timestamps" fields = .ok s.timestamps := by
  cases j with
  | object fields =>
    rw [ofJson]
    constructor
    · intro h
      split at h
      · rename_i data timestamps hdata htimes
        cases h
        exact ⟨fields, rfl, hdata, htimes⟩
      all_goals cases h
    · rintro ⟨_, ⟨⟩, hdata, htimes⟩
      rw [hdata, htimes]
  | _ =>
    constructor
    · intro h
      cases h
    · rintro ⟨_, h, _⟩
      cases h

/-- **A file is read as a snapshot exactly when its bytes validate as it.** -/
theorem ofBytes_eq_ok {bytes : List UInt8} {s : Snapshot} :
    ofBytes bytes = .ok s ↔ Validates bytes s := by
  unfold ofBytes
  constructor
  · intro h
    split at h
    · rename_i j hj
      obtain ⟨text, htext, hread⟩ := Option.bind_eq_some_iff.mp hj
      obtain ⟨fields, rfl, hdata, htimes⟩ := ofJson_eq_ok.mp h
      exact ⟨text, fields, htext, hread, hdata, htimes⟩
    · cases h
  · rintro ⟨text, fields, htext, hread, hdata, htimes⟩
    rw [htext, Option.bind_some, hread]
    exact ofJson_eq_ok.mpr ⟨fields, rfl, hdata, htimes⟩

end Snapshot

/-! ## The entries of a file -/

namespace Store

/-- **The keys that are kept are those of both maps**, in the order of the values. -/
theorem keys_ofSnapshot (s : Snapshot) :
    (ofSnapshot s).keys = s.data.keys.filter fun key => key ∈ s.timestamps.keys := by
  unfold keys ofSnapshot
  induction s.data with
  | nil => rfl
  | cons r rest ih =>
    rw [List.filterMap_cons, Table.keys_cons, List.filter_cons]
    cases htime : s.timestamps.get? r.1 with
    | none =>
      have hkey : ¬ r.1 ∈ s.timestamps.keys := by
        rw [← Table.get?_isSome_iff, htime]
        exact Bool.false_ne_true
      rw [Option.map_none, if_neg (by simpa using hkey)]
      exact ih
    | some time =>
      have hkey : r.1 ∈ s.timestamps.keys := by
        rw [← Table.get?_isSome_iff, htime]
        rfl
      rw [Option.map_some, if_pos (by simpa using hkey)]
      exact congrArg (r.1 :: ·) ih

/-- **The samples that are kept have the value and the second of their key.** -/
theorem sample?_ofSnapshot {s : Snapshot} (hkeys : s.data.keys.Nodup) {key : String} {e : Sample} :
    (ofSnapshot s).sample? key = some e ↔
      s.data.get? key = some e.value ∧ s.timestamps.get? key = some e.time := by
  have hrows : (ofSnapshot s).rows.keys.Nodup := by
    change (ofSnapshot s).keys.Nodup
    rw [keys_ofSnapshot]
    exact hkeys.filter _
  constructor
  · intro h
    obtain ⟨r, hr, hmade⟩ := List.mem_filterMap.mp (Table.mem_of_get? h)
    obtain ⟨time, htime, heq⟩ := Option.map_eq_some_iff.mp hmade
    cases heq
    exact ⟨Table.get?_of_mem hkeys hr, htime⟩
  · rintro ⟨hvalue, htime⟩
    refine Table.get?_of_mem hrows (List.mem_filterMap.mpr ⟨(key, e.value), ?_, ?_⟩)
    · exact Table.mem_of_get? hvalue
    · rw [htime]
      rfl

end Store

/-! ## What is found -/

/-- Whether a value is a whole number or a double, as a time to live is. -/
def Value.IsNumber : Value → Prop
  | .int _ => True
  | .float _ => True
  | _ => False

namespace StoreFile

/-- The age of a file has an order with every time to live that is a number. -/
theorem stale_or_trusted {f : StoreFile} (httl : f.ttl.IsNumber) (now written : Double) :
    f.Stale now written ∨ f.Trusted now written := by
  unfold Stale Trusted
  cases hold : Value.relates .greater (.float (age now written)) f.ttl with
  | ok old =>
    cases old with
    | true => exact Or.inl rfl
    | false => exact Or.inr rfl
  | error g =>
    cases httl' : f.ttl with
    | int n =>
      rw [httl'] at hold
      cases hold
    | float x =>
      rw [httl'] at hold
      cases hold
    | _ =>
      rw [httl'] at httl
      cases httl

/-- What a store holds after opening, by what stands at its path: nothing where there is no file, a
file that is too old, or one that cannot be read or does not validate; else the keys that are in both
maps of the file, in the order of the values, with value and second. -/
inductive Holds (validate : Validator) (tree : FileTree) (now : Double) (f : StoreFile) :
    Store → Prop where
  | absent {e : FileError} (hstat : tree.stat f.path = .error (.file e))
      (hcause : e.cause = .noEntry) : Holds validate tree now f .empty
  | stale {found : FileStat} (hstat : tree.stat f.path = .ok found)
      (hstale : f.Stale now found.time) : Holds validate tree now f .empty
  | unreadable {found : FileStat} {e : FileError} (hstat : tree.stat f.path = .ok found)
      (htrusted : f.Trusted now found.time) (hread : tree.read f.path = .error (.file e)) :
      Holds validate tree now f .empty
  | malformed {found : FileStat} {bytes : List UInt8} (hstat : tree.stat f.path = .ok found)
      (htrusted : f.Trusted now found.time) (hread : tree.read f.path = .ok bytes)
      (hbytes : ∀ s, validate bytes ≠ .ok s) : Holds validate tree now f .empty
  | loaded {found : FileStat} {bytes : List UInt8} {s : Snapshot} {store : Store}
      (hstat : tree.stat f.path = .ok found) (htrusted : f.Trusted now found.time)
      (hread : tree.read f.path = .ok bytes) (hbytes : validate bytes = .ok s)
      (hkeys : store.keys = s.data.keys.filter fun key => key ∈ s.timestamps.keys)
      (hsamples : ∀ key e, store.sample? key = some e ↔
        s.data.get? key = some e.value ∧ s.timestamps.get? key = some e.time) :
      Holds validate tree now f store

/-- The maps of the snapshots that a validator reads have distinct keys. -/
def Validator.KeepsKeysApart (validate : Validator) : Prop :=
  ∀ bytes s, validate bytes = .ok s → s.data.keys.Nodup ∧ s.timestamps.keys.Nodup

theorem keepsKeysApart_ofBytes : Validator.KeepsKeysApart Snapshot.ofBytes := by
  intro bytes s h
  have hfileable := Snapshot.fileable_of_ofBytes h
  exact ⟨hfileable.dataKeys, hfileable.timestampKeys⟩

variable {validate : Validator}

theorem findContentBy_holds (hvalidate : validate.KeepsKeysApart) {f : StoreFile}
    {tree : FileTree} {now : Double} {found : FileStat}
    (hnull : f.path.hasNull = false) (hstat : tree.stat f.path = .ok found)
    (htrusted : f.Trusted now found.time) :
    ∃ finding, f.findContentBy validate tree = .ok finding ∧
      f.Holds validate tree now finding.store := by
  unfold findContentBy
  cases hread : tree.read f.path with
  | error g =>
    obtain ⟨e, rfl⟩ := FileTree.read_fault hnull hread
    exact ⟨.unreadable e, rfl, .unreadable hstat htrusted hread⟩
  | ok bytes =>
    dsimp only
    cases hbytes : validate bytes with
    | error n =>
      refine ⟨.malformed n, rfl, .malformed hstat htrusted hread fun s hs => ?_⟩
      rw [hs] at hbytes
      cases hbytes
    | ok s =>
      have hnodup := (hvalidate bytes s hbytes).1
      exact ⟨.loaded s, rfl, .loaded hstat htrusted hread hbytes (Store.keys_ofSnapshot s)
        fun key e => Store.sample?_ofSnapshot hnodup⟩

/-- **What is found at the path of a store**: what the store will hold, or that the file cannot be
inspected for another reason than that it is not there. -/
theorem findBy_spec (hvalidate : validate.KeepsKeysApart) {f : StoreFile}
    (hnull : f.path.hasNull = false) (httl : f.ttl.IsNumber) (tree : FileTree) (now : Double) :
    (∃ e, tree.stat f.path = .error (.file e) ∧ e.cause ≠ .noEntry ∧
      f.findBy validate tree now = .error (.reported (.fileNotInspected f.path.text e))) ∨
    (∀ e, tree.stat f.path = .error (.file e) → e.cause = .noEntry) ∧
      ∃ finding, f.findBy validate tree now = .ok finding ∧
        f.Holds validate tree now finding.store := by
  unfold findBy
  cases hstat : tree.stat f.path with
  | error g =>
    obtain ⟨e, rfl⟩ := FileTree.stat_fault hnull hstat
    by_cases hcause : e.cause = .noEntry
    · refine Or.inr ⟨?_, .nothing, if_pos hcause, .absent hstat hcause⟩
      intro e' he'
      cases he'
      exact hcause
    · exact Or.inl ⟨e, rfl, hcause, if_neg hcause⟩
  | ok found =>
    refine Or.inr ⟨fun e he => ?_, ?_⟩
    · cases he
    dsimp only
    rcases stale_or_trusted httl now found.time with hstale | htrusted
    · rw [(hstale : Value.relates _ _ _ = _)]
      exact ⟨_, rfl, .stale hstat hstale⟩
    · rw [(htrusted : Value.relates _ _ _ = _)]
      exact findContentBy_holds hvalidate hnull hstat htrusted

/-! ## Opening -/

/-- What keeps a store from opening: the directory of its file cannot be made, or, where it is
there, the file cannot be inspected for another reason than that it is not there. -/
def Blocked (tree : FileTree) (time : Double) (f : StoreFile) : Prop :=
  (∃ g, (tree.makeDirectories time f.path.parent).1 = .error g) ∨
    ∃ e, (tree.makeDirectories time f.path.parent).2.stat f.path = .error (.file e) ∧
      e.cause ≠ .noEntry

theorem hasNull_parent {p : Path} (h : p.hasNull = false) : p.parent.hasNull = false := by
  rw [Path.hasNull, List.any_eq_false] at h ⊢
  exact fun c hc => h c (List.dropLast_subset _ hc)

/-- Opening a store leaves the tree in which its directory was made, under every validator. -/
theorem openStoreBy_tree (validate : Validator) (f : StoreFile) (tree : FileTree)
    (time now : Double) :
    (f.openStoreBy validate tree time now).tree = (tree.makeDirectories time f.path.parent).2 := by
  unfold openStoreBy
  rcases tree.makeDirectories time f.path.parent with ⟨_ | ⟨⟨⟩⟩, made⟩
  · rfl
  · dsimp only
    cases f.findBy validate made now <;> rfl

theorem openStore_tree (f : StoreFile) (tree : FileTree) (time now : Double) :
    (f.openStore tree time now).tree = (tree.makeDirectories time f.path.parent).2 :=
  f.openStoreBy_tree Snapshot.ofBytes tree time now

end StoreFile

/-- **Opening a store fails with a persistence error where it is blocked**, and gives what its file
holds where it is not. -/
theorem StoreFile.openStoreBy_spec {validate : Validator} (hvalidate : validate.KeepsKeysApart)
    {f : StoreFile} (hnull : f.path.hasNull = false) (httl : f.ttl.IsNumber) (tree : FileTree)
    (time now : Double) :
    (f.Blocked tree time ∧
        ∃ e, (f.openStoreBy validate tree time now).result = .error (.reported e) ∧
          e.errorClass = .persistence) ∨
      ¬ f.Blocked tree time ∧ ∃ s, (f.openStoreBy validate tree time now).result = .ok s ∧
        f.Holds validate (f.openStoreBy validate tree time now).tree now s := by
  rw [f.openStoreBy_tree validate tree time now]
  unfold Blocked openStoreBy
  cases hmake : tree.makeDirectories time f.path.parent with
  | mk result made =>
    cases result with
    | error g =>
      have hmade : (tree.makeDirectories time f.path.parent).1 = .error g := by rw [hmake]
      obtain ⟨e, rfl⟩ := FileTree.makeDirectories_fault (hasNull_parent hnull) hmade
      exact Or.inl ⟨Or.inl ⟨_, rfl⟩, _, rfl, rfl⟩
    | ok =>
      dsimp only
      rcases findBy_spec hvalidate hnull httl made now with
        ⟨e, hstat, hcause, hfind⟩ | ⟨hinspected, finding, hfind, hholds⟩
      · rw [hfind]
        exact Or.inl ⟨Or.inr ⟨e, hstat, hcause⟩, _, rfl, rfl⟩
      · rw [hfind]
        refine Or.inr ⟨?_, finding.store, rfl, hholds⟩
        rintro (⟨_, ⟨⟩⟩ | ⟨e, hstat, hcause⟩)
        exact hcause (hinspected e hstat)

namespace NewDirectory

/-- A store file that is to be in a directory of its own. -/
def file : StoreFile := ⟨⟨.root, ["a", "s.json"]⟩, .int 60⟩

/-- The tree with that directory. -/
def made : FileTree := ⟨[(["a"], .directory (.ofWhole 1000))]⟩

theorem makeDirectories_parent :
    FileTree.empty.makeDirectories (.ofWhole 1000) file.path.parent = (.ok (), made) := by
  decide +kernel

end NewDirectory

end Baseline
