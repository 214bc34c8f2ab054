import Baseline.Proofs.FileTree
import Baseline.Proofs.Store.Invariant

/-!
# Saving a store and opening it again

* `StoreFile.Fresh`, `StoreFile.Stale` : a file is young enough to be trusted, or too old.
* `SameFile` : nobody has touched a file between two trees.
* `StoreFile.save_spec` : a saved file holds the snapshot and has the time of the save.
* `StoreFile.openStore_saved` : **opened again while it is trusted, a saved store is what it was**,
  or empty when one of its values is not finite.
* `StoreFile.openStore_stale`, `StoreFile.openStore_missing` : otherwise it opens empty.
* `StoreFile.save_lossless` : **finite samples are saved, loaded and saved again without loss**, to
  the byte.
-/

set_option autoImplicit false

namespace Baseline

/-- The file at a path is the same in two trees, and so is its time. -/
structure SameFile (p : Path) (t t' : FileTree) : Prop where
  read : t'.read p = t.read p
  stat : t'.stat p = t.stat p

/-- A store file that is trusted for a minute. -/
def minuteFile : StoreFile := ⟨⟨.root, ["s.json"]⟩, .int 60⟩

/-- A file stands at a path and can be replaced, or none does and it can be made. -/
def FileTree.Writable (t : FileTree) (p : Path) : Prop :=
  ∃ place name, t.locate true p = .ok place ∧ place.IsFileAt name

namespace Value

theorem Quantity.less_eq_false_of_le {a b : Quantity} (h : (a.less b || a.same b) = true) :
    b.less a = false := by
  cases a <;> cases b <;> grind [less, same]

end Value

namespace StoreFile

/-! ## Freshness -/

/-- A file that was written at a time is no older than the time to live. -/
def Fresh (f : StoreFile) (now written : Double) : Prop :=
  Value.relates .lessEqual (.float (age now written)) f.ttl = .ok true

/-- A file that was written at a time is older than the time to live. -/
def Stale (f : StoreFile) (now written : Double) : Prop :=
  Value.relates .greater (.float (age now written)) f.ttl = .ok true

/-- A file that was written at a time is not older than the time to live: it is loaded. -/
def Trusted (f : StoreFile) (now written : Double) : Prop :=
  Value.relates .greater (.float (age now written)) f.ttl = .ok false

instance (f : StoreFile) (now written : Double) : Decidable (f.Stale now written) :=
  inferInstanceAs (Decidable (Value.relates .greater (.float (age now written)) f.ttl = .ok true))

theorem Trusted.not_stale {f : StoreFile} {now written : Double} (h : f.Trusted now written) :
    ¬ f.Stale now written := by
  unfold Trusted at h
  unfold Stale
  rw [h]
  exact fun h => by cases h

theorem Fresh.trusted {f : StoreFile} {now written : Double} (h : f.Fresh now written) :
    f.Trusted now written := by
  unfold Fresh at h
  unfold Trusted
  unfold Value.relates at h ⊢
  unfold Value.relates.byQuantity at h ⊢
  split at h
  · split at h
    · cases h
    · rename_i hexact
      rw [if_neg hexact]
      rw [Except.ok.injEq] at h
      exact congrArg Except.ok (Value.Quantity.less_eq_false_of_le h)
  · cases h

/-! ## Saving -/

/-- **A saved file holds the snapshot and has the time of the save.** -/
theorem save_spec {f : StoreFile} {tree : FileTree} {time : Double} {s : Store}
    (h : (f.save tree time s).result = .ok ()) :
    (f.save tree time s).tree.read f.path = .ok (Text.encodeUtf8 s.snapshot.toText) ∧
      (f.save tree time s).tree.stat f.path = .ok ⟨false, time⟩ := by
  unfold save at h ⊢
  cases hwrite : tree.write time f.path (Text.encodeUtf8 s.snapshot.toText) with
  | error fault =>
    rw [hwrite] at h
    cases fault <;> cases h
  | ok left =>
    obtain ⟨name, hloc⟩ := FileTree.locate_write hwrite
    exact ⟨FileTree.read_of_locate hloc, FileTree.stat_of_locate hloc⟩

/-- Where the path of a store can be written, saving succeeds. -/
theorem save_isOk {f : StoreFile} {tree : FileTree} (h : tree.Writable f.path) (time : Double)
    (s : Store) : (f.save tree time s).result = .ok () := by
  obtain ⟨place, name, hloc, hplace⟩ := h
  obtain ⟨left, hwrite⟩ :=
    FileTree.write_isOk hloc hplace time (Text.encodeUtf8 s.snapshot.toText)
  rw [save, hwrite]

/-! ## Opening -/

/-- A file that can be read can be replaced. -/
theorem writable_of_read {t : FileTree} {p : Path} {bytes : List UInt8}
    (h : t.read p = .ok bytes) : t.Writable p := by
  obtain ⟨name, time, hloc⟩ := FileTree.locate_of_read h
  exact ⟨_, name, hloc, rfl⟩

/-- Where a path can be written, it does not lead to the root. -/
theorem parts_ne_nil_of_writable {t : FileTree} (hroot : t.Rooted) {p : Path}
    (h : t.Writable p) : p.parts ≠ [] := by
  intro hparts
  obtain ⟨place, name, hloc, hplace⟩ := h
  have hwalk := (FileTree.locate_eq_ok.mp hloc).2.2
  rw [hparts, FileTree.walkLinks_nil, FileTree.directoryPlace, hroot] at hwalk
  cases hwalk
  exact hplace

/-- Opening a store whose directory is there leaves the tree alone. -/
theorem openStore_of_makeDirectories {f : StoreFile} {tree : FileTree} {time : Double}
    (h : tree.makeDirectories time f.path.parent = (.ok (), tree)) (now : Double) :
    (f.openStore tree time now).result = (f.find tree now).map Finding.store ∧
      (f.openStore tree time now).tree = tree := by
  rw [openStore_eq, h]
  dsimp only
  cases f.find tree now with
  | error failure => exact ⟨rfl, rfl⟩
  | ok finding => exact ⟨rfl, rfl⟩

/-- Opening a store whose file can be written leaves the tree alone. -/
theorem openStore_of_writable {f : StoreFile} {tree : FileTree} (hroot : tree.Rooted)
    (h : tree.Writable f.path) (time now : Double) :
    (f.openStore tree time now).result = (f.find tree now).map Finding.store ∧
      (f.openStore tree time now).tree = tree := by
  have hparts := parts_ne_nil_of_writable hroot h
  obtain ⟨place, name, hloc, hplace⟩ := h
  exact openStore_of_makeDirectories (FileTree.makeDirectories_parent hroot hparts hloc time) now

/-- A file that nobody touched since it was saved: what it holds, its time, and that opening its
store leaves the tree alone. -/
theorem openStore_of_save {f : StoreFile} {tree found : FileTree} {saved now : Double} {s : Store}
    (time : Double) (hsave : (f.save tree saved s).result = .ok ())
    (hsame : SameFile f.path (f.save tree saved s).tree found) (hroot : found.Rooted) :
    found.read f.path = .ok (Text.encodeUtf8 s.snapshot.toText) ∧
      found.stat f.path = .ok ⟨false, saved⟩ ∧
      (f.openStore found time now).result = (f.find found now).map Finding.store ∧
      (f.openStore found time now).tree.Writable f.path := by
  obtain ⟨hread, hstat⟩ := save_spec hsave
  rw [← hsame.read] at hread
  rw [← hsame.stat] at hstat
  have hwritable := writable_of_read hread
  obtain ⟨hresult, htree⟩ := openStore_of_writable hroot hwritable time now
  refine ⟨hread, hstat, hresult, ?_⟩
  rw [htree]
  exact hwritable

theorem find_saved {f : StoreFile} {tree : FileTree} {now written : Double} {s : Store}
    (hs : s.Fileable) (hread : tree.read f.path = .ok (Text.encodeUtf8 s.snapshot.toText))
    (hstat : tree.stat f.path = .ok ⟨false, written⟩) (htrusted : f.Trusted now written) :
    (f.find tree now).map Finding.store = .ok (if s.AllFinite then s else .empty) := by
  rw [find_eq, hstat]
  dsimp only
  rw [(htrusted : Value.relates _ _ _ = _)]
  dsimp only
  rw [findContent_eq, hread]
  dsimp only
  by_cases hfinite : s.AllFinite
  · rw [if_pos hfinite, (Store.ofBytes_snapshot hs).1 hfinite]
    exact congrArg Except.ok (Store.ofSnapshot_snapshot hs.keys)
  · obtain ⟨n, hbytes⟩ := (Store.ofBytes_snapshot hs).2 hfinite
    rw [if_neg hfinite, hbytes]
    rfl

theorem find_stale {f : StoreFile} {tree : FileTree} {now written : Double}
    (hstat : tree.stat f.path = .ok ⟨false, written⟩) (hstale : f.Stale now written) :
    (f.find tree now).map Finding.store = .ok .empty := by
  rw [find_eq, hstat]
  dsimp only
  rw [(hstale : Value.relates _ _ _ = _)]
  rfl

/-- **Opened again while its file is trusted, a saved store is what it was**, or empty when one of
its values is not finite. -/
theorem openStore_saved {f : StoreFile} {tree found : FileTree} {saved now : Double} {s : Store}
    (time : Double) (hs : s.Fileable) (hsave : (f.save tree saved s).result = .ok ())
    (hsame : SameFile f.path (f.save tree saved s).tree found) (hroot : found.Rooted)
    (htrusted : f.Trusted now saved) :
    (f.openStore found time now).result = .ok (if s.AllFinite then s else .empty) ∧
      (f.openStore found time now).tree.Writable f.path := by
  obtain ⟨hread, hstat, hresult, hwritable⟩ := openStore_of_save time hsave hsame hroot
  exact ⟨hresult.trans (find_saved hs hread hstat htrusted), hwritable⟩

/-- Opened again when its file is stale, a store is empty. -/
theorem openStore_stale {f : StoreFile} {tree found : FileTree} {saved now : Double} {s : Store}
    (time : Double) (hsave : (f.save tree saved s).result = .ok ())
    (hsame : SameFile f.path (f.save tree saved s).tree found) (hroot : found.Rooted)
    (hstale : f.Stale now saved) :
    (f.openStore found time now).result = .ok .empty ∧
      (f.openStore found time now).tree.Writable f.path := by
  obtain ⟨_, hstat, hresult, hwritable⟩ := openStore_of_save time hsave hsame hroot
  exact ⟨hresult.trans (find_stale hstat hstale), hwritable⟩

/-- Where no file stands, a store opens empty. -/
theorem openStore_missing {f : StoreFile} {tree made : FileTree} {time : Double} {dir : NodeName}
    {last : String} (now : Double)
    (hmade : tree.makeDirectories time f.path.parent = (.ok (), made))
    (hfree : made.locate true f.path = .ok (.free dir last)) :
    (f.openStore tree time now).result = .ok .empty ∧
      (f.openStore tree time now).tree.Writable f.path := by
  have hstat : made.stat f.path = .error (FileTree.failure .noEntry f.path) := by
    rw [FileTree.stat, hfree]
    rfl
  have hfind : f.find made now = .ok .nothing := by
    rw [find_eq, hstat, FileTree.failure]
    rfl
  rw [openStore_eq, hmade]
  dsimp only
  rw [hfind]
  exact ⟨rfl, _, _, hfree, rfl⟩

/-! ## Saved, opened and saved again -/

/-- A store fits into a file when no key is repeated and its times are seconds of some clock. -/
theorem fileable_of_clock {s : Store} (hkeys : s.rows.keys.Nodup)
    (htimes : ∀ r ∈ s.rows, ∃ reading, wholeSecond reading = .ok r.2.time) : s.Fileable where
  keys := hkeys
  seconds := fun r hr =>
    have ⟨_, hreading⟩ := htimes r hr
    admitsInt_wholeSecond hreading

/-- **Saving loses nothing.**  For every store of finite values under distinct keys, the times of
which are seconds that some clock can give: where its file can be written, it is saved; opened by
anyone who trusts the file, while nobody has touched it, the store has the same keys in the same
order with the same values, to the sign of a zero, and the same times; and saved once more,
whenever that is, it leaves the same bytes. -/
theorem save_lossless {f reader : StoreFile} {tree found : FileTree} {s : Store}
    {saved now : Double} (hkeys : s.rows.keys.Nodup) (hfinite : s.AllFinite)
    (htimes : ∀ r ∈ s.rows, ∃ reading, wholeSecond reading = .ok r.2.time)
    (hwritable : tree.Writable f.path)
    (hsame : SameFile f.path (f.save tree saved s).tree found) (hroot : found.Rooted)
    (hpath : reader.path = f.path) (htrusted : reader.Trusted now saved) (made later : Double) :
    (f.save tree saved s).result = .ok () ∧
      (reader.openStore found made now).result = .ok s ∧
      ∃ bytes, (f.save tree saved s).tree.read f.path = .ok bytes ∧
        (reader.save (reader.openStore found made now).tree later s).result = .ok () ∧
        (reader.save (reader.openStore found made now).tree later s).tree.read f.path =
          .ok bytes := by
  have hs := fileable_of_clock hkeys htimes
  have hsaved := save_isOk hwritable saved s
  obtain ⟨hbytes, hstat⟩ := save_spec hsaved
  have hread : found.read reader.path = .ok (Text.encodeUtf8 s.snapshot.toText) := by
    rw [hpath, hsame.read, hbytes]
  have hstat' : found.stat reader.path = .ok ⟨false, saved⟩ := by
    rw [hpath, hsame.stat, hstat]
  have hagain := writable_of_read hread
  obtain ⟨hresult, htree⟩ := openStore_of_writable hroot hagain made now
  have hopened : (reader.openStore found made now).result = .ok s := by
    rw [hresult, find_saved hs hread hstat' htrusted, if_pos hfinite]
  rw [← htree] at hagain
  have hresaved := save_isOk hagain later s
  refine ⟨hsaved, hopened, _, hbytes, hresaved, ?_⟩
  rw [← hpath]
  exact (save_spec hresaved).1

/-! ### Keys that need escapes, and the ends of the number ranges -/

namespace Extremes

/-- The least number above zero. -/
def least : Double := .ofUnits 1

/-- The largest number. -/
def largest : Double := .fin false .largest

/-- The largest number, below zero. -/
def lowest : Double := .fin true .largest

/-- The last second of all clocks. -/
def lastSecond : Int := Nat.pow 2 1024 - Nat.pow 2 971

/-- A store of them. -/
def store : Store := ⟨[("", ⟨.fin true .zero, -lastSecond⟩), ("\"\\\n", ⟨least, 0⟩),
  ("\u00e9", ⟨largest, lastSecond⟩)]⟩

/-- The clock reading of everything that happens here. -/
def now : Double := .one

/-- The tree after the store was saved. -/
def left : FileTree := (minuteFile.save .empty now store).tree

theorem writable : FileTree.Writable .empty minuteFile.path := ⟨.free [] "s.json", _, rfl, rfl⟩

theorem times : ∀ r ∈ store.rows, ∃ reading, wholeSecond reading = .ok r.2.time := by
  have hall : (∀ r ∈ store.rows, wholeSecond lowest = .ok r.2.time ∨
      wholeSecond .zero = .ok r.2.time ∨ wholeSecond largest = .ok r.2.time) := by
    decide +kernel
  intro r hr
  rcases hall r hr with h | h | h <;> exact ⟨_, h⟩

end Extremes

open Extremes in
theorem save_lossless_extremes : store.rows.keys.Nodup ∧ store.AllFinite ∧
    (∀ r ∈ store.rows, ∃ reading, wholeSecond reading = .ok r.2.time) ∧
    FileTree.Writable .empty minuteFile.path ∧ left.Rooted ∧ minuteFile.Trusted now now ∧
    (minuteFile.save .empty now store).result = .ok () ∧
    (minuteFile.openStore left now now).result = .ok store ∧
    ∃ bytes, left.read minuteFile.path = .ok bytes ∧
      (minuteFile.save (minuteFile.openStore left now now).tree now store).result = .ok () ∧
      (minuteFile.save (minuteFile.openStore left now now).tree now store).tree.read
        minuteFile.path = .ok bytes := by
  have hkeys : store.rows.keys.Nodup := by decide
  have hfinite : store.AllFinite := by decide
  have hroot : left.Rooted := show left.node? [] = none by decide +kernel
  have htrusted : minuteFile.Trusted now now := show Value.relates _ _ _ = .ok false by
    decide +kernel
  exact ⟨hkeys, hfinite, times, writable, hroot, htrusted,
    save_lossless hkeys hfinite times writable ⟨rfl, rfl⟩ hroot rfl htrusted now now⟩

end StoreFile

end Baseline
