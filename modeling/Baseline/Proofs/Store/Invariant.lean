import Baseline.Proofs.Json.Bounded
import Baseline.Proofs.Number.Rounding
import Baseline.Proofs.Store.Snapshot
import Baseline.Store.File

/-!
# Every store fits into a file

* `admitsInt_wholeSecond` : the second of a clock reading keeps the digit limit.
* `Store.Fileable.record`, `Store.Fileable.delete`, `Store.Fileable.set` : no operation leaves
  the stores that a file can hold.
* `Store.fileable_of_openStore` : nor does any file that is loaded.
* `Store.AllFinite.record`, `Store.AllFinite.delete` : finite values stay finite.
-/

set_option autoImplicit false

namespace Baseline

open Numeral

/-! ## Seconds -/

theorem two_pow_mul_le_ten_pow {a b n : Nat} (h : a + b ≤ n) :
    Nat.pow 2 a * Nat.pow 2 b ≤ Nat.pow 10 n := by
  rw [Nat.pow_eq, Nat.pow_eq, ← Nat.pow_add]
  exact Nat.le_trans (Nat.pow_le_pow_right (by decide) h) (Nat.pow_le_pow_left (by decide) n)

theorem units_lt (m : Magnitude) : m.units < Nat.pow 10 (53 + m.exp) :=
  Nat.lt_of_lt_of_le (Nat.mul_lt_mul_of_pos_right m.mant_lt (Nat.two_pow_pos _))
    (two_pow_mul_le_ten_pow (Nat.le_refl _))

/-- **The second of a clock reading keeps the digit limit.** -/
theorem admitsInt_wholeSecond {rules : Json.Rules} {now : Double} {t : Int}
    (h : wholeSecond now = .ok t) : rules.AdmitsInt t := by
  cases now with
  | nan => cases h
  | inf neg => cases h
  | fin neg m =>
    cases h
    have habs : (if neg then -(m.units : Int) else m.units).natAbs = m.units := by
      cases neg <;> simp
    have hshort : 53 + m.exp < digitLimit := by
      have hexp := m.exp_le
      unfold digitLimit
      omega
    refine Json.admitsInt_of_lt (by omega) hshort ?_
    change (Int.tdiv (if neg then -(m.units : Int) else m.units) Double.unitsPerOne).natAbs < _
    rw [Int.natAbs_tdiv, habs]
    exact Nat.lt_of_le_of_lt (Nat.div_le_self _ _) (units_lt m)

namespace Store

/-! ## Operations -/

theorem Fileable.empty : Fileable .empty where
  keys := List.nodup_nil
  seconds := by simp [Store.empty]

theorem AllFinite.empty : AllFinite .empty := by
  simp [AllFinite, Store.empty]

theorem record_eq_ok {s s' : Store} {now value : Double} {key : String} {t : Int} :
    s.record now key value = .ok (t, s') ↔
      wholeSecond now = .ok t ∧ s' = ⟨s.rows.put key ⟨value, t⟩⟩ := by
  unfold record
  cases wholeSecond now with
  | error f => simp
  | ok u =>
    simp only [Except.ok.injEq, Prod.mk.injEq]
    constructor
    · rintro ⟨rfl, rfl⟩
      exact ⟨rfl, rfl⟩
    · rintro ⟨rfl, rfl⟩
      exact ⟨rfl, rfl⟩

theorem Fileable.record {s s' : Store} (hs : s.Fileable) {now value : Double} {key : String}
    {t : Int} (h : s.record now key value = .ok (t, s')) : s'.Fileable := by
  obtain ⟨htime, rfl⟩ := record_eq_ok.mp h
  refine ⟨Table.nodup_keys_put key _ hs.keys, fun r hr => ?_⟩
  rcases Table.mem_put hr with rfl | hr
  · exact admitsInt_wholeSecond htime
  · exact hs.seconds r hr

theorem AllFinite.record {s s' : Store} (hs : s.AllFinite) {now value : Double} {key : String}
    {t : Int} (hvalue : value.isFinite = true) (h : s.record now key value = .ok (t, s')) :
    s'.AllFinite := by
  obtain ⟨_, rfl⟩ := record_eq_ok.mp h
  intro r hr
  rcases Table.mem_put hr with rfl | hr
  · exact hvalue
  · exact hs r hr

theorem Fileable.delete {s : Store} (hs : s.Fileable) (key : String) : (s.delete key).Fileable where
  keys := Table.nodup_keys_erase key hs.keys
  seconds := fun r hr => hs.seconds r (Table.mem_of_mem_erase hr)

theorem AllFinite.delete {s : Store} (hs : s.AllFinite) (key : String) : (s.delete key).AllFinite :=
  fun r hr => hs r (Table.mem_of_mem_erase hr)

theorem Fileable.set {s s' : Store} (hs : s.Fileable) {now : Double} {key : String} {raw : Value}
    {t : Int} (h : s.set now key raw = .ok (t, s')) : s'.Fileable := by
  unfold Store.set at h
  split at h
  · exact hs.record h
  · cases h
  · cases h

end Store

/-! ## Loaded stores -/

namespace Snapshot

open Json

theorem admitsInt_ofDouble {x : Double} {t : Int} (h : Whole.ofDouble x = .ok t) :
    rules.AdmitsInt t := by
  unfold Whole.ofDouble at h
  split at h
  · cases h
  split at h
  · cases h
  split at h
  · rename_i hbound
    cases h
    refine admitsInt_of_lt (k := 63) (by decide) (by decide) (Nat.lt_of_lt_of_le hbound ?_)
    exact Nat.pow_le_pow_left (by decide) 63
  · cases h

/-- The digits that follow the sign of a text make a whole number that every rules admit. -/
theorem admitsInt_ofDigits {neg : Bool} {cs : List Char} {t : Int}
    (h : Whole.ofDigits neg cs = .ok t) : rules.AdmitsInt t := by
  unfold Whole.ofDigits at h
  dsimp only at h
  split at h
  · cases h
    exact admitsInt_of_lt (k := 1) (by decide) (by decide) (by decide)
  split at h
  · cases h
  rename_i hdigits
  split at h
  · cases h
  rename_i hlimit
  split at h
  · cases h
    refine admitsInt_signed (List.all_eq_true.mp List.all_takeWhile) (fun hnil => hdigits (.inl hnil))
      ?_
    simpa [Rules.admits, rules] using hlimit
  · cases h

theorem admitsInt_ofText {cs : List Char} {t : Int} (h : Whole.ofText cs = .ok t) :
    rules.AdmitsInt t := by
  unfold Whole.ofText at h
  split at h
  · exact admitsInt_ofDigits h
  · exact admitsInt_ofDigits h
  · cases h

theorem eq_ok_of_toOption {ε α : Type} {e : Except ε α} {a : α} (h : e.toOption = some a) :
    e = .ok a := by
  cases e with
  | error f => cases h
  | ok b =>
    cases h
    rfl

theorem admitsInt_second? {j : Json} (hj : WithinLimit rules j) {t : Int} (h : second? j = some t) :
    rules.AdmitsInt t := by
  unfold second? at h
  split at h
  · rename_i b
    cases h
    refine admitsInt_of_lt (k := 1) (by decide) (by decide) ?_
    cases b <;> decide
  · cases h
    exact hj
  · exact admitsInt_ofDouble (eq_ok_of_toOption h)
  · exact admitsInt_ofText (eq_ok_of_toOption h)
  · cases h

theorem mem_of_rowsOf {α : Type} {read? : Json → Option α} {fields : List (String × Json)}
    {t : Table α} (h : rowsOf read? fields = .ok t) :
    t.keys.Nodup ∧ ∀ r ∈ t, ∃ f ∈ fields, read? f.2 = some r.2 := by
  unfold rowsOf at h
  dsimp only at h
  split at h
  · cases h
    refine ⟨Table.nodup_keys_ofRows _, fun r hr => ?_⟩
    obtain ⟨f, hf, hread⟩ := List.mem_filterMap.mp (Table.mem_of_mem_ofRows hr)
    obtain ⟨a, ha, rfl⟩ := Option.map_eq_some_iff.mp hread
    exact ⟨f, hf, ha⟩
  · cases h

theorem mem_of_lastField? {name : String} {fields : List (String × Json)} {j : Json}
    (h : lastField? name fields = some j) : ∃ f ∈ fields, f.2 = j := by
  obtain ⟨f, hf, rfl⟩ := Option.map_eq_some_iff.mp h
  exact ⟨f, List.mem_reverse.mp (List.mem_of_find?_eq_some hf), rfl⟩

/-- A map that was read repeats no key, and its rows were read from what stands in the
document. -/
theorem mem_of_table {α : Type} {read? : Json → Option α} {name other : String}
    {fields : List (String × Json)} {t : Table α} (h : table read? name other fields = .ok t)
    (hfields : FieldsWithinLimit rules fields) :
    t.keys.Nodup ∧ ∀ r ∈ t, ∃ j, WithinLimit rules j ∧ read? j = some r.2 := by
  unfold table at h
  split at h
  · cases h
    exact ⟨List.nodup_nil, fun r hr => absurd hr List.not_mem_nil⟩
  · rename_i entries hentries
    have hobject : ∃ f ∈ fields, f.2 = .object entries := by
      cases hfirst : lastField? name fields with
      | none =>
        rw [hfirst] at hentries
        exact mem_of_lastField? hentries
      | some j =>
        rw [hfirst] at hentries
        cases hentries
        exact mem_of_lastField? hfirst
    obtain ⟨f, hf, hobject⟩ := hobject
    have hwithin := fieldsWithinLimit_iff.mp hfields f hf
    rw [hobject, WithinLimit, fieldsWithinLimit_iff] at hwithin
    obtain ⟨hkeys, hrows⟩ := mem_of_rowsOf h
    refine ⟨hkeys, fun r hr => ?_⟩
    obtain ⟨e, he, hread⟩ := hrows r hr
    exact ⟨e.2, hwithin e he, hread⟩
  · cases h

/-- **What is read from a file fits into a file.** -/
theorem fileable_of_ofBytes {bytes : List UInt8} {s : Snapshot} (h : ofBytes bytes = .ok s) :
    s.Fileable := by
  unfold ofBytes at h
  split at h
  · rename_i j hj
    obtain ⟨text, _, hread⟩ := Option.bind_eq_some_iff.mp hj
    have hwithin := readBy?_withinLimit hread
    unfold ofJson at h
    split at h
    · rename_i fields
      split at h
      · rename_i data timestamps hdata htimes
        cases h
        obtain ⟨hkeys, _⟩ := mem_of_table hdata hwithin
        obtain ⟨hkeys', hrows⟩ := mem_of_table htimes hwithin
        refine ⟨hkeys, hkeys', fun r hr => ?_⟩
        obtain ⟨_, hj, hsecond⟩ := hrows r hr
        exact admitsInt_second? hj hsecond
      · cases h
      · cases h
      · cases h
    · cases h
  · cases h

end Snapshot

namespace Store

theorem fileable_ofSnapshot {s : Snapshot} (hs : s.Fileable) : (ofSnapshot s).Fileable where
  keys := by
    have hsub : (ofSnapshot s).rows.keys.Sublist s.data.keys := by
      rw [ofSnapshot]
      generalize s.data = data
      induction data with
      | nil => exact List.Sublist.slnil
      | cons r rest ih =>
        rw [List.filterMap_cons]
        split
        · exact ih.cons _
        · rename_i hr
          obtain ⟨_, _, rfl⟩ := Option.map_eq_some_iff.mp hr
          exact ih.cons_cons _
    exact hs.dataKeys.sublist hsub
  seconds := by
    intro r hr
    obtain ⟨d, _, hd⟩ := List.mem_filterMap.mp hr
    obtain ⟨t, ht, rfl⟩ := Option.map_eq_some_iff.mp hd
    exact hs.seconds (d.1, t) (Table.mem_of_get? ht)

/-- What was read when a store was opened fits into a file. -/
theorem fileable_of_find_loaded {f : StoreFile} {tree : FileTree} {now : Double} {s : Snapshot}
    (h : f.find tree now = .ok (.loaded s)) : s.Fileable := by
  have hcontent : StoreFile.findContent tree f = .ok (.loaded s) → s.Fileable := by
    intro h
    rw [StoreFile.findContent_eq] at h
    split at h
    · cases h
    · cases h
    · split at h
      · rename_i s' hs
        cases h
        exact Snapshot.fileable_of_ofBytes hs
      · cases h
  rw [StoreFile.find_eq] at h
  split at h
  · split at h <;> cases h
  · cases h
  · split at h
    · cases h
    · cases h
    · exact hcontent h

theorem fileable_of_find {f : StoreFile} {tree : FileTree} {now : Double} {finding : Finding}
    (h : f.find tree now = .ok finding) : finding.store.Fileable := by
  cases finding with
  | loaded s => exact fileable_ofSnapshot (fileable_of_find_loaded h)
  | _ => exact .empty

/-- **A store that was opened fits into a file.** -/
theorem fileable_of_openStore {f : StoreFile} {tree : FileTree} {time now : Double} {s : Store}
    (h : (f.openStore tree time now).result = .ok s) : s.Fileable := by
  rw [StoreFile.openStore_eq] at h
  split at h
  · cases h
  · split at h
    · cases h
    · rename_i hfind
      cases h
      exact fileable_of_find hfind

end Store

end Baseline
