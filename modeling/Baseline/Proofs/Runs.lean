import Baseline.Proofs.Sampling.Compute
import Baseline.Proofs.Store.File

/-!
# Collector runs over one store file

A collector opens the store of a file, makes its calls and saves.  The next run finds what this
one has left.

* `performAll` : the calls of a run on a store, one after the other.
* `CollectorRun.perform` : a whole run, from the file that it finds to the file that it leaves.
* `CollectorRun.perform_opened` : a run that opens a store reports what the calls report on it.
* `runs_eq_one_store` : **over a fresh file, runs report what one store in memory reports.**
-/

set_option autoImplicit false

namespace Baseline

/-! ## Calls -/

/-- What a collector asks of a store. -/
inductive StoreCall where
  | compute (key : String) (raw declared : Value)
  | delete (key : String)

/-- A call and the clock reading at which it is made. -/
structure TimedCall where
  now : Double
  call : StoreCall

/-- Makes a call: its result, and the store that it leaves.  Deleting a key reports nothing. -/
def TimedCall.perform (c : TimedCall) (s : Store) : Except Failure Value × Store :=
  match c.call with
  | .compute key raw declared =>
    let (result, after) := computeValue c.now (some s) key raw declared
    (result, after.getD s)
  | .delete key => (.ok .null, s.delete key)

/-- Makes calls one after the other: their results, and the store that is left. -/
def performAll (s : Store) : List TimedCall → List (Except Failure Value) × Store
  | [] => ([], s)
  | c :: rest =>
    let step := c.perform s
    let more := performAll step.2 rest
    (step.1 :: more.1, more.2)

theorem performAll_append (s : Store) (cs ds : List TimedCall) :
    performAll s (cs ++ ds) =
      ((performAll s cs).1 ++ (performAll (performAll s cs).2 ds).1,
        (performAll (performAll s cs).2 ds).2) := by
  induction cs generalizing s with
  | nil => rfl
  | cons c rest ih =>
    rw [List.cons_append, performAll, performAll, ih]
    rfl

/-! ## What the calls keep -/

/-- A store that survives its file: the file can hold it, and all its values are finite. -/
structure Store.Lasting (s : Store) : Prop extends s.Fileable where
  finite : s.AllFinite

theorem Store.Lasting.empty : Store.Lasting .empty := ⟨.empty, .empty⟩

theorem Store.Lasting.record {s s' : Store} (hs : s.Lasting) {now value : Double} {key : String}
    {t : Int} (hvalue : value.isFinite = true) (h : s.record now key value = .ok (t, s')) :
    s'.Lasting :=
  ⟨hs.toFileable.record h, hs.finite.record hvalue h⟩

theorem Store.Lasting.delete {s : Store} (hs : s.Lasting) (key : String) : (s.delete key).Lasting :=
  ⟨hs.toFileable.delete key, hs.finite.delete key⟩

theorem Store.Lasting.perform {s : Store} (hs : s.Lasting) (c : TimedCall) :
    (c.perform s).2.Lasting := by
  unfold TimedCall.perform
  split
  · rename_i key raw declared _
    dsimp only
    rcases computeValue_store c.now s key raw declared with
      h | ⟨value, t, s', hvalue, hrecord, h⟩
    · rw [h]
      exact hs
    · rw [h]
      exact hs.record hvalue hrecord
  · exact hs.delete _

theorem Store.Lasting.performAll {s : Store} (hs : s.Lasting) (cs : List TimedCall) :
    (performAll s cs).2.Lasting := by
  induction cs generalizing s with
  | nil => exact hs
  | cons c rest ih => exact ih (hs.perform c)

/-! ## Runs -/

/-- A collector run: the tree that it finds, the clock reading at which it opens its store, its
calls, and when directories are made and the file is written. -/
structure CollectorRun where
  found : FileTree
  rooted : found.Rooted
  made : Double
  opened : Double
  calls : List TimedCall
  saved : Double

namespace CollectorRun

/-- Opens the store of a file, makes all calls and saves; the results of the calls. -/
def perform (r : CollectorRun) (f : StoreFile) : DiskStep (List (Except Failure Value)) :=
  let opening := f.openStore r.found r.made r.opened
  match opening.result with
  | .error e => ⟨.error e, opening.tree, opening.log⟩
  | .ok s =>
    let (results, after) := performAll s r.calls
    let saving := f.save opening.tree r.saved after
    ⟨saving.result.map fun _ => results, saving.tree, opening.log ++ saving.log⟩

/-- No file is there when the run begins, and one can be made once its directory is. -/
def StartsAfresh (r : CollectorRun) (f : StoreFile) : Prop :=
  ∃ tree dir last, r.found.makeDirectories r.made f.path.parent = (.ok (), tree) ∧
    tree.locate true f.path = .ok (.free dir last)

/-- The next run finds the file as this run has left it. -/
def Precedes (r next : CollectorRun) (f : StoreFile) : Prop :=
  SameFile f.path (r.perform f).tree next.found

/-- The next run finds the file while it is fresh. -/
def PrecedesFresh (f : StoreFile) (r next : CollectorRun) : Prop :=
  r.Precedes next f ∧ f.Fresh next.opened r.saved

/-- A run that opens a store, where the file can be written: what it reports, and what it
leaves. -/
theorem perform_opened {r : CollectorRun} {f : StoreFile} {s : Store}
    (hopen : (f.openStore r.found r.made r.opened).result = .ok s)
    (hwritable : (f.openStore r.found r.made r.opened).tree.Writable f.path) :
    (r.perform f).result = .ok (performAll s r.calls).1 ∧
      ∃ tree, (f.save tree r.saved (performAll s r.calls).2).result = .ok () ∧
        (r.perform f).tree = (f.save tree r.saved (performAll s r.calls).2).tree := by
  have hsave := StoreFile.save_isOk hwritable r.saved (performAll s r.calls).2
  unfold perform
  dsimp only
  rw [hopen]
  dsimp only
  exact ⟨by rw [hsave]; rfl, _, hsave, rfl⟩

end CollectorRun

/-- Runs one after the other, the first of which opens a given store. -/
theorem runs_from_store {f : StoreFile} {r : CollectorRun} {rest : List CollectorRun} {s : Store}
    (hs : s.Lasting) (hopen : (f.openStore r.found r.made r.opened).result = .ok s)
    (hwritable : (f.openStore r.found r.made r.opened).tree.Writable f.path)
    (hchain : (r :: rest).IsChain (CollectorRun.PrecedesFresh f)) :
    ∃ outcomes, (r :: rest).mapM (fun r => (r.perform f).result) = .ok outcomes ∧
      outcomes.flatten = (performAll s ((r :: rest).flatMap (·.calls))).1 := by
  induction rest generalizing r s with
  | nil =>
    obtain ⟨hresult, _⟩ := CollectorRun.perform_opened hopen hwritable
    refine ⟨[(performAll s r.calls).1], ?_, by simp⟩
    rw [List.mapM_cons, hresult]
    rfl
  | cons next rest ih =>
    obtain ⟨hresult, tree, hsave, hleft⟩ := CollectorRun.perform_opened hopen hwritable
    obtain ⟨⟨hsame, hfresh⟩, hrest⟩ := List.isChain_cons_cons.mp hchain
    have hlasting := hs.performAll r.calls
    rw [CollectorRun.Precedes, hleft] at hsame
    obtain ⟨hopen', hwritable'⟩ := StoreFile.openStore_saved next.made hlasting.toFileable hsave
      hsame next.rooted hfresh.trusted
    rw [if_pos hlasting.finite] at hopen'
    obtain ⟨outcomes, houtcomes, hflat⟩ := ih hlasting hopen' hwritable' hrest
    refine ⟨(performAll s r.calls).1 :: outcomes, ?_, ?_⟩
    · rw [List.mapM_cons, hresult, houtcomes]
      rfl
    · rw [List.flatten_cons, hflat]
      exact (congrArg Prod.fst (performAll_append s r.calls _)).symm

/-- **Over a fresh file, runs report what one store in memory reports**: however the calls are
cut into runs, all runs succeed, and their results are those of all calls on one store. -/
theorem runs_eq_one_store {f : StoreFile} {runs : List CollectorRun}
    (hfirst : ∀ r ∈ runs.head?, r.StartsAfresh f)
    (hchain : runs.IsChain (CollectorRun.PrecedesFresh f)) :
    ∃ outcomes, runs.mapM (fun r => (r.perform f).result) = .ok outcomes ∧
      outcomes.flatten = (performAll .empty (runs.flatMap (·.calls))).1 := by
  cases runs with
  | nil => exact ⟨[], rfl, rfl⟩
  | cons r rest =>
    obtain ⟨tree, dir, last, hmade, hfree⟩ := hfirst r rfl
    obtain ⟨hopen, hwritable⟩ := StoreFile.openStore_missing r.opened hmade hfree
    exact runs_from_store .empty hopen hwritable hchain

/-! ### Two runs of one counter -/

namespace TwoRuns

/-- Samples a counter for the first time. -/
def first : CollectorRun where
  found := .empty
  rooted := FileTree.rooted_empty
  made := .ofWhole 1000
  opened := .ofWhole 1000
  calls := [⟨.ofWhole 1000, .compute "k" (.int 1) (.kind .delta)⟩]
  saved := .ofWhole 1000

/-- Samples it again ten seconds later, and forgets it. -/
def next : CollectorRun where
  found := (first.perform minuteFile).tree
  rooted := show FileTree.node? _ _ = none by decide +kernel
  made := .ofWhole 1010
  opened := .ofWhole 1010
  calls := [⟨.ofWhole 1010, .compute "k" (.int 10) (.kind .delta)⟩, ⟨.ofWhole 1010, .delete "k"⟩]
  saved := .ofWhole 1010

end TwoRuns

open TwoRuns in
theorem runs_eq_one_store_twoRuns :
    (∀ r ∈ [first, next].head?, r.StartsAfresh minuteFile) ∧
      [first, next].IsChain (CollectorRun.PrecedesFresh minuteFile) ∧
      ∃ outcomes, [first, next].mapM (fun r => (r.perform minuteFile).result) = .ok outcomes ∧
        outcomes.flatten = (performAll .empty ([first, next].flatMap (·.calls))).1 := by
  have hfirst : ∀ r ∈ [first, next].head?, r.StartsAfresh minuteFile := by
    rintro r ⟨⟩
    exact ⟨.empty, [], "s.json", rfl, rfl⟩
  have hfresh : minuteFile.Fresh next.opened first.saved :=
    show Value.relates _ _ _ = .ok true by decide +kernel
  have hchain : [first, next].IsChain (CollectorRun.PrecedesFresh minuteFile) :=
    List.isChain_cons_cons.mpr ⟨⟨⟨rfl, rfl⟩, hfresh⟩, .singleton next⟩
  exact ⟨hfirst, hchain, runs_eq_one_store hfirst hchain⟩

end Baseline
