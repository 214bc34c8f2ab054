import Baseline.Proofs.FileTree.Written
import Baseline.Proofs.Store.Opening
import Baseline.Session

/-!
# Saving is all or nothing

A store in memory and its file are two things: saving writes the one and never touches the other.
The path of the file is followed anew at every save, so the file that is written is the one to which
the path leads by then, through links or past what has come in its way since the store was opened.

* `StoreFile.Opened` : a store was opened on the file, so its path has no null character.
* `SessionCall`, `Session.answers` : what a collector asks of its stores, and what it is answered.
* `Session.answers_saveStore` : **no answer depends on whether a store was saved before.**
* `save_allOrNothing` : **a save either writes all entries to the one file to which the path leads,
  or fails with a persistence error and leaves every file alone.**
-/

set_option autoImplicit false

namespace Baseline

namespace StoreFile

variable {f : StoreFile} {tree : FileTree}

/-- A store was opened on the file at some time. -/
def Opened (f : StoreFile) : Prop :=
  ∃ tree time now s, (f.openStore tree time now).result = .ok s

/-- A path with a null character is refused when the file is inspected, so no store has it. -/
theorem Opened.noNull (h : f.Opened) : f.path.hasNull = false := by
  obtain ⟨tree, time, now, s, hopen⟩ := h
  rw [← Bool.not_eq_true]
  intro hnull
  have hstat (t : FileTree) : t.stat f.path = .error .embeddedNull := by
    rw [FileTree.stat, FileTree.locate, if_pos hnull]
    rfl
  rw [openStore_eq] at hopen
  split at hopen
  · cases hopen
  · rw [find_eq, hstat] at hopen
    cases hopen

/-- A save that succeeds writes the file to which the path leads, and nothing else. -/
theorem writtenAt_save {time : Double} {s : Store} (h : (f.save tree time s).result = .ok ()) :
    ∃ name, tree.LeadsToFile f.path name ∧
      FileTree.WrittenAt tree (f.save tree time s).tree name
        (.file (Text.encodeUtf8 s.snapshot.toText) time) := by
  unfold save at h ⊢
  cases hwrite : tree.write time f.path (Text.encodeUtf8 s.snapshot.toText) with
  | error fault =>
    rw [hwrite] at h
    cases fault <;> cases h
  | ok left =>
    obtain ⟨place, name, hloc, hplace, hwritten⟩ := FileTree.writtenAt_write hwrite
    exact ⟨name, ⟨place, hloc, hplace⟩, hwritten⟩

/-- Where the path leads to no file and to no free name, the save is refused. -/
theorem save_refused (hnull : f.path.hasNull = false) (h : ¬ tree.Writable f.path) (time : Double)
    (s : Store) : ∃ e, (f.save tree time s).result = .error (.reported (.fileNotWritten f.path.text e)) ∧
      (f.save tree time s).tree = tree := by
  unfold save
  cases hwrite : tree.write time f.path (Text.encodeUtf8 s.snapshot.toText) with
  | ok left =>
    obtain ⟨place, name, hloc, hplace, -⟩ := FileTree.writtenAt_write hwrite
    exact absurd ⟨place, name, hloc, hplace⟩ h
  | error fault =>
    obtain ⟨e, rfl⟩ := FileTree.write_fault hnull hwrite
    exact ⟨e, rfl, rfl⟩

end StoreFile

/-! ## The store in memory -/

/-- What a collector asks of its stores, as its clock goes on. -/
inductive SessionCall where
  | setClock (time : Value)
  | get (store : Nat) (key : String)
  | set (store : Nat) (key : String) (raw : Value)
  | compute (store : Option Nat) (key : String) (raw declared : Value)

/-- What the calls are answered. -/
inductive SessionAnswer where
  | clock (now : Except Failure Double)
  | found (sample : Double × Int × Bool)
  | recorded (time : Except Failure Int)
  | reported (value : Except Failure Value)

namespace Session

/-- A session that has come upon another file tree. -/
def onTree (s : Session) (tree : FileTree) : Session := { s with tree := tree }

end Session

/-- A step of a session that has come upon another file tree. -/
def SessionStep.onTree {α : Type} (step : SessionStep α) (tree : FileTree) : SessionStep α :=
  { step with session := step.session.onTree tree }

namespace Session

variable {s : Session}

/-- Makes a call: its answer, and the session after it. -/
def perform (s : Session) : SessionCall → SessionAnswer × Session
  | .setClock time => (.clock (s.setClock time).result, (s.setClock time).session)
  | .get n key => (.found ((s.storeAt n).store.get key), s)
  | .set n key raw => (.recorded (s.setValue n key raw).result, (s.setValue n key raw).session)
  | .compute n key raw declared =>
    (.reported (s.compute n key raw declared).result, (s.compute n key raw declared).session)

/-- The answers to calls that are made one after the other. -/
def answers (s : Session) : List SessionCall → List SessionAnswer
  | [] => []
  | c :: rest => (s.perform c).1 :: (s.perform c).2.answers rest

theorem storeAt_onTree (s : Session) (tree : FileTree) (n : Nat) :
    (s.onTree tree).storeAt n = s.storeAt n := rfl

theorem setClock_onTree (s : Session) (tree : FileTree) (time : Value) :
    (s.onTree tree).setClock time = (s.setClock time).onTree tree := by
  unfold setClock
  cases time.toDouble <;> rfl

theorem setValue_onTree (s : Session) (tree : FileTree) (n : Nat) (key : String) (raw : Value) :
    (s.onTree tree).setValue n key raw = (s.setValue n key raw).onTree tree := by
  unfold setValue
  rw [storeAt_onTree, show (s.onTree tree).clock = s.clock from rfl]
  cases (s.storeAt n).store.set s.clock key raw <;> rfl

theorem compute_onTree (s : Session) (tree : FileTree) (n : Option Nat) (key : String)
    (raw declared : Value) :
    (s.onTree tree).compute n key raw declared = (s.compute n key raw declared).onTree tree := by
  unfold compute
  simp only [storeAt_onTree, show (s.onTree tree).clock = s.clock from rfl]
  rcases computeValue s.clock (n.map fun m => (s.storeAt m).store) key raw declared with ⟨_, after⟩
  cases n <;> cases after <;> rfl

/-- No call on a store looks at the file tree. -/
theorem perform_onTree (s : Session) (tree : FileTree) (c : SessionCall) :
    (s.onTree tree).perform c = ((s.perform c).1, (s.perform c).2.onTree tree) := by
  cases c with
  | setClock time =>
    rw [perform, setClock_onTree]
    rfl
  | get n key => rfl
  | set n key raw =>
    rw [perform, setValue_onTree]
    rfl
  | compute n key raw declared =>
    rw [perform, compute_onTree]
    rfl

theorem answers_onTree (calls : List SessionCall) (s : Session) (tree : FileTree) :
    (s.onTree tree).answers calls = s.answers calls := by
  induction calls generalizing s with
  | nil => rfl
  | cons c rest ih =>
    rw [answers, answers, perform_onTree, ih]

theorem stamped_session (s : Session) (p : Path) (time : Option Double) (tree : FileTree) :
    ∃ left, (s.stamped p time tree).session = s.onTree left := by
  unfold stamped
  cases tree.setTime p (s.fileTime time) <;> exact ⟨_, rfl⟩

/-- A save changes nothing but the file tree. -/
theorem saveStore_session (s : Session) (n : Nat) (time : Option Double) :
    ∃ tree, (s.saveStore n time).session = s.onTree tree := by
  unfold saveStore savedAs
  dsimp only
  split
  · exact ⟨_, rfl⟩
  · exact ⟨_, rfl⟩
  · rename_i f _ _
    obtain ⟨left, hleft⟩ := s.stamped_session f.path time
      ((s.storeAt n).backing.save s.tree s.present (s.storeAt n).store).tree
    split <;> exact ⟨left, hleft⟩

/-- **No answer depends on whether a store was saved before.** -/
theorem answers_saveStore (s : Session) (n : Nat) (time : Option Double)
    (calls : List SessionCall) : (s.saveStore n time).session.answers calls = s.answers calls := by
  obtain ⟨tree, hsession⟩ := s.saveStore_session n time
  rw [hsession, answers_onTree]

end Session

/-! ## The file -/

/-- **A save is all or nothing.**  Where the path of a store leads to a file or to a free name, that
file holds all entries afterwards: every path that led to it reads their encoding, every other file
reads what it did, and no other node changes but for the times of directories.  Where it leads
elsewhere or nowhere, the save fails with a persistence error and the tree is what it was.  In
either case every store in memory answers as if there had been no save. -/
theorem save_allOrNothing (s : Session) {n : Nat} {f : StoreFile} (hopened : f.Opened)
    (hfile : (s.storeAt n).backing = .file f) :
    let entries := Text.encodeUtf8 (s.storeAt n).store.snapshot.toText
    let saved := (s.storeAt n).backing.save s.tree s.present (s.storeAt n).store
    ((saved.result = .ok () ∧ saved.tree.read f.path = .ok entries ∧
        ∃ name, s.tree.LeadsToFile f.path name ∧
          FileTree.WrittenAt s.tree saved.tree name (.file entries s.present) ∧
          ∀ p old, s.tree.read p = .ok old →
            (s.tree.LeadsToFile p name ∧ saved.tree.read p = .ok entries) ∨
              (¬ s.tree.LeadsToFile p name ∧ saved.tree.read p = .ok old)) ∨
      ((∀ name, ¬ s.tree.LeadsToFile f.path name) ∧ saved.tree = s.tree ∧
        ∃ e, saved.result = .error (.reported e) ∧ e.errorClass = .persistence)) ∧
      ∀ time calls, (s.saveStore n time).session.answers calls = s.answers calls := by
  refine ⟨?_, s.answers_saveStore n⟩
  rw [hfile]
  dsimp only [Backing.save]
  by_cases hwritable : s.tree.Writable f.path
  · refine Or.inl ?_
    have hok := StoreFile.save_isOk hwritable s.present (s.storeAt n).store
    obtain ⟨name, hleads, hwritten⟩ := StoreFile.writtenAt_save hok
    exact ⟨hok, (StoreFile.save_spec hok).1, name, hleads, hwritten,
      fun p old hread => hwritten.read_of_read hread⟩
  · refine Or.inr ?_
    obtain ⟨e, hresult, htree⟩ := StoreFile.save_refused hopened.noNull hwritable s.present
      (s.storeAt n).store
    exact ⟨fun name ⟨place, hloc, hplace⟩ => hwritable ⟨place, name, hloc, hplace⟩, htree, _,
      hresult, rfl⟩

/-! ### A link in the place of the file -/

namespace LinkedFile

/-- A file of a directory, a link to it where the store has its file, and another file. -/
def tree : FileTree := ⟨[(["d"], .directory .zero), (["d", "t.json"], .file [1] .zero),
  (["s.json"], .link "d/t.json"), (["u.json"], .file [2] .zero)]⟩

/-- A store with one sample. -/
def store : Store := ⟨[("k", ⟨.one, 1000⟩)]⟩

/-- A session that holds this store. -/
def session : Session where
  __ := Session.start .one .one ⟨[], ⟨.root, ["tmp"]⟩⟩ tree
  stores := [⟨.file minuteFile, store, true⟩]

/-- The tree after the save. -/
def left : FileTree := (minuteFile.save tree .one store).tree

/-- The entries of the store, encoded. -/
def entries : List UInt8 := Text.encodeUtf8 store.snapshot.toText

theorem opened : minuteFile.Opened :=
  ⟨.empty, .one, .one, .empty, (StoreFile.openStore_missing .one rfl rfl).1⟩

theorem leadsToFile : tree.LeadsToFile minuteFile.path ["d", "t.json"] :=
  ⟨.node ["d", "t.json"] (.file [1] .zero), by decide +kernel, rfl⟩

theorem leadsToFile_other : tree.LeadsToFile ⟨.root, ["u.json"]⟩ ["u.json"] :=
  ⟨.node ["u.json"] (.file [2] .zero), by decide +kernel, rfl⟩

theorem read_other : tree.read ⟨.root, ["u.json"]⟩ = .ok [2] := by decide +kernel

end LinkedFile

open LinkedFile in
/-- The file behind the link is written, and the other file is left alone. -/
theorem save_allOrNothing_throughLink : minuteFile.Opened ∧
    (session.storeAt 0).backing = .file minuteFile ∧
      left.read minuteFile.path = .ok entries ∧
        left.node? ["d", "t.json"] = some (.file entries .one) ∧
          left.read ⟨.root, ["u.json"]⟩ = .ok [2] := by
  obtain ⟨hsave, -⟩ := save_allOrNothing session opened (n := 0) rfl
  refine ⟨opened, rfl, ?_⟩
  rcases hsave with ⟨-, hread, name, hleads, hwritten, hreads⟩ | ⟨hnowhere, -⟩
  · cases hleads.unique leadsToFile
    rcases hreads _ _ read_other with ⟨hsame, -⟩ | ⟨-, hother⟩
    · exact absurd (hsame.unique leadsToFile_other) (by decide)
    · exact ⟨hread, hwritten.there, hother⟩
  · exact absurd leadsToFile (hnowhere _)

end Baseline
