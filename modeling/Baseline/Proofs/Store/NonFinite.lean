import Baseline.Proofs.Store.File

/-!
# What one value that is not finite costs

A store takes any double, but its file holds finite ones only, and a file that is refused is
refused as a whole.

* `Store.edit` : a value is set or a key is deleted.
* `Store.FiniteKept` : every finite sample of a store is found in another.
* `finiteKept_reopened_iff` : **saved and opened again, a store keeps its finite samples exactly
  when all its values are finite, or none is.**
* `finite_sample_lost` : one value that is not finite, and another key is lost.
-/

set_option autoImplicit false

namespace Baseline

/-! ## Edits -/

/-- What a caller does to a store between opening and saving it. -/
inductive StoreEdit where
  | set (now : Double) (key : String) (raw : Value)
  | delete (key : String)

namespace Store

/-- One edit; a value that cannot be set leaves the store as it is. -/
def edit (s : Store) : StoreEdit → Store
  | .set now key raw =>
    match s.set now key raw with
    | .ok (_, after) => after
    | .error _ => s
  | .delete key => s.delete key

theorem Fileable.edit {s : Store} (hs : s.Fileable) (e : StoreEdit) : (s.edit e).Fileable := by
  cases e with
  | set now key raw =>
    unfold Store.edit
    dsimp only
    split
    · rename_i hset
      exact hs.set hset
    · exact hs
  | delete key => exact hs.delete key

theorem Fileable.edits {s : Store} (hs : s.Fileable) (es : List StoreEdit) :
    (es.foldl Store.edit s).Fileable := by
  induction es generalizing s with
  | nil => exact hs
  | cons e rest ih => exact ih (hs.edit e)

/-- Every finite sample of a store is found in another, with its value and its second. -/
def FiniteKept (s t : Store) : Prop :=
  ∀ key e, s.sample? key = some e → e.value.isFinite = true → t.sample? key = some e

/-- Whether no value of a store is finite. -/
def NoneFinite (s : Store) : Prop :=
  ∀ key e, s.sample? key = some e → e.value.isFinite = false

theorem finiteKept_refl (s : Store) : s.FiniteKept s := fun _ _ h _ => h

theorem finiteKept_empty_iff {s : Store} : s.FiniteKept .empty ↔ s.NoneFinite := by
  constructor
  · intro h key e he
    cases hfinite : e.value.isFinite with
    | false => rfl
    | true => cases h key e he hfinite
  · intro h key e he hfinite
    rw [h key e he] at hfinite
    cases hfinite

end Store

/-! ## Saved and opened again -/

/-- **Saved and opened again while its file is fresh, a store keeps its finite samples exactly
when all its values are finite, or none is**: otherwise it opens empty.  The store was opened
from any file, and any edits were made to it. -/
theorem finiteKept_reopened_iff {f : StoreFile} {before tree found : FileTree}
    {made opened saved now : Double} {first : Store}
    (hopen : (f.openStore before made opened).result = .ok first) (edits : List StoreEdit)
    (hsave : (f.save tree saved (edits.foldl Store.edit first)).result = .ok ())
    (hsame : SameFile f.path (f.save tree saved (edits.foldl Store.edit first)).tree found)
    (hroot : found.Rooted) (hfresh : f.Fresh now saved) (time : Double) :
    ∃ again, (f.openStore found time now).result = .ok again ∧
      ((edits.foldl Store.edit first).FiniteKept again ↔
        (edits.foldl Store.edit first).AllFinite ∨ (edits.foldl Store.edit first).NoneFinite) := by
  have hfile : (edits.foldl Store.edit first).Fileable :=
    (Store.fileable_of_openStore hopen).edits edits
  generalize edits.foldl Store.edit first = s at hsave hsame hfile ⊢
  have hagain := (StoreFile.openStore_saved time hfile hsave hsame hroot hfresh.trusted).1
  refine ⟨_, hagain, ?_⟩
  by_cases hfinite : s.AllFinite
  · rw [if_pos hfinite]
    exact iff_of_true s.finiteKept_refl (Or.inl hfinite)
  · rw [if_neg hfinite, Store.finiteKept_empty_iff, or_iff_right hfinite]

/-! ### One value that is not a number -/

namespace OneNan

/-- The clock reading of everything that happens here. -/
def now : Double := .ofWhole 1000

/-- One number, and one that is none. -/
def edits : List StoreEdit := [.set now "a" (.int 1), .set now "b" (.float .nan)]

/-- The store with both. -/
def store : Store := edits.foldl Store.edit .empty

/-- The tree after the store was saved. -/
def left : FileTree := (minuteFile.save .empty now store).tree

theorem free : FileTree.locate .empty true minuteFile.path = .ok (.free [] "s.json") := rfl

theorem opened : (minuteFile.openStore .empty now now).result = .ok .empty :=
  (StoreFile.openStore_missing now rfl free).1

theorem saved : (minuteFile.save .empty now store).result = .ok () :=
  StoreFile.save_isOk ⟨_, ["s.json"], free, rfl⟩ now store

theorem rooted : left.Rooted := show left.node? [] = none by decide +kernel

theorem fresh : minuteFile.Fresh now now := show Value.relates _ _ _ = .ok true by decide +kernel

theorem sample_a : store.sample? "a" = some ⟨.one, 1000⟩ := by decide +kernel

theorem not_allFinite : ¬ store.AllFinite := by decide +kernel

end OneNan

open OneNan in
theorem finiteKept_reopened_iff_oneNan :
    (minuteFile.openStore .empty now now).result = .ok .empty ∧
      (minuteFile.save .empty now store).result = .ok () ∧
      SameFile minuteFile.path (minuteFile.save .empty now store).tree left ∧ left.Rooted ∧
      minuteFile.Fresh now now ∧
      ∃ again, (minuteFile.openStore left now now).result = .ok again ∧
        (store.FiniteKept again ↔ store.AllFinite ∨ store.NoneFinite) :=
  ⟨opened, saved, ⟨rfl, rfl⟩, rooted, fresh,
    finiteKept_reopened_iff opened edits saved ⟨rfl, rfl⟩ rooted fresh now⟩

open OneNan in
/-- **A finite sample is lost**: `a` was 1 and the file is fresh, but `b` was no number. -/
theorem finite_sample_lost :
    ∃ again, (minuteFile.openStore left now now).result = .ok again ∧
      store.sample? "a" = some ⟨.one, 1000⟩ ∧ again.sample? "a" = none := by
  have hstore : store.Fileable := Store.Fileable.empty.edits edits
  have hagain := (StoreFile.openStore_saved now hstore saved ⟨rfl, rfl⟩ rooted fresh.trusted).1
  rw [if_neg not_allFinite] at hagain
  exact ⟨.empty, hagain, sample_a, rfl⟩

end Baseline
