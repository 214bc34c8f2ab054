import Baseline.Proofs.Json.RoundTrip
import Baseline.Proofs.Table
import Baseline.Store.Snapshot

/-!
# What a snapshot file gives back

* `Snapshot.readBack` : the document that a reader finds in the text of a snapshot: `null` in
  the place of every value that is not finite.
* `Snapshot.ofBytes_toText` : finite values and all keys and seconds come back as they were.
* `Snapshot.ofBytes_toText_of_not_finite` : one value that is not finite, and the whole file is
  refused.
* `Store.ofSnapshot_snapshot` : a store is its snapshot.
-/

set_option autoImplicit false

namespace Baseline

namespace Json

theorem readableFields_iff {rules : Rules} {fields : List (String × Json)} {depth : Nat} :
    ReadableFields rules fields depth ↔ ∀ f ∈ fields, Readable rules f.2 depth := by
  induction fields with
  | nil => simp [ReadableFields]
  | cons f rest ih =>
    obtain ⟨name, j⟩ := f
    rw [ReadableFields, ih, List.forall_mem_cons]

/-- Fields of the same names are written alike when their values are. -/
theorem renderFields_congr {style : Style} {α : Type} {f g : α → Json}
    (h : ∀ a, renderChars style (f a) = renderChars style (g a)) (rows : List (String × α)) :
    renderFields style (rows.map fun r => (r.1, f r.2)) =
      renderFields style (rows.map fun r => (r.1, g r.2)) := by
  induction rows with
  | nil => rfl
  | cons r rest ih =>
    cases rest with
    | nil => simp [renderFields, h]
    | cons s rest =>
      simp only [List.map_cons] at ih ⊢
      rw [renderFields_cons_cons, renderFields_cons_cons, ih, h]

end Json

namespace Snapshot

open Json

/-- A snapshot that a file can hold: no key is repeated in a map, and every second keeps the digit
limit. -/
structure Fileable (s : Snapshot) : Prop where
  dataKeys : s.data.keys.Nodup
  timestampKeys : s.timestamps.keys.Nodup
  seconds : ∀ r ∈ s.timestamps, rules.AdmitsInt r.2

/-! ## Writing -/

theorem standard_style : style.Standard where
  comma := ⟨[], rfl, by simp⟩
  colon := ⟨[], rfl, by simp⟩
  numbers := by decide

/-- The document that the text of a double stands for. -/
def doubleDocument (x : Double) : Json := if x.isFinite then .float x else .null

theorem renderChars_doubleDocument (x : Double) :
    renderChars style (.float x) = renderChars style (doubleDocument x) := by
  cases x with
  | nan => rfl
  | inf neg => cases neg <;> rfl
  | fin neg m => rfl

theorem readable_doubleDocument (x : Double) (depth : Nat) :
    Readable rules (doubleDocument x) depth := by
  unfold doubleDocument
  split
  · rename_i h
    exact h
  · trivial

/-- The document that a reader finds in the text of a snapshot. -/
def readBack (s : Snapshot) : Json := .object [
  ("Data", .object (s.data.map fun r => (r.1, doubleDocument r.2))),
  ("Timestamps", .object (s.timestamps.map fun r => (r.1, .int r.2)))]

theorem render_readBack (s : Snapshot) : s.toText = s.readBack.render style := by
  have hdata := renderFields_congr renderChars_doubleDocument s.data
  simp only [toText, render, toJson, readBack, renderChars, renderFields, hdata]

theorem readable_readBack {s : Snapshot}
    (hseconds : ∀ r ∈ s.timestamps, rules.AdmitsInt r.2) :
    Readable rules s.readBack nestLimit := by
  have hdata : ∀ depth,
      ReadableFields rules (s.data.map fun r => (r.1, doubleDocument r.2)) depth := by
    intro depth
    rw [readableFields_iff, List.forall_mem_map]
    exact fun r _ => readable_doubleDocument r.2 depth
  have htimes : ∀ depth,
      ReadableFields rules (s.timestamps.map fun r => (r.1, Json.int r.2)) depth := by
    intro depth
    rw [readableFields_iff, List.forall_mem_map]
    exact hseconds
  simp only [readBack, Readable, ReadableFields, nestLimit]
  exact ⟨by decide, ⟨by decide, hdata _⟩, ⟨by decide, htimes _⟩, trivial⟩

theorem ofBytes_toText_eq {s : Snapshot}
    (hseconds : ∀ r ∈ s.timestamps, rules.AdmitsInt r.2) :
    ofBytes (Text.encodeUtf8 s.toText) = ofJson s.readBack := by
  unfold ofBytes
  rw [Text.decodeUtf8_encodeUtf8, Option.bind_some, render_readBack,
    readBy?_render standard_style (readable_readBack hseconds)]

/-! ## Reading -/

theorem rowsOf_second (t : Table Int) :
    rowsOf second? (t.map fun r => (r.1, Json.int r.2)) = .ok (Table.ofRows t) := by
  have hrows : ((t.map fun r => (r.1, Json.int r.2)).filterMap fun f =>
      (second? f.2).map fun a => (f.1, a)) = t := by
    rw [List.filterMap_map]
    exact List.filterMap_some
  rw [rowsOf, hrows, if_pos (List.length_map _).symm]

theorem double?_doubleDocument (x : Double) :
    double? (doubleDocument x) = if x.isFinite then some x else none := by
  unfold doubleDocument
  split <;> rfl

/-- The rows of the values: all of them, or the number of those that are not finite. -/
theorem rowsOf_double (t : Table Double) :
    rowsOf double? (t.map fun r => (r.1, doubleDocument r.2)) =
      if ∀ r ∈ t, r.2.isFinite = true then .ok (Table.ofRows t)
      else .error (t.countP fun r => !r.2.isFinite) := by
  have hrows : ((t.map fun r => (r.1, doubleDocument r.2)).filterMap fun f =>
      (double? f.2).map fun a => (f.1, a)) = t.filter fun r => r.2.isFinite := by
    rw [List.filterMap_map, ← List.filterMap_eq_filter]
    refine List.filterMap_congr fun r _ => ?_
    rw [Function.comp_apply, double?_doubleDocument]
    cases hr : r.2.isFinite <;> simp [Option.guard, hr]
  have hcount : t.length - (t.filter fun r => r.2.isFinite).length =
      t.countP fun r => !r.2.isFinite := by
    have hsum := List.length_eq_countP_add_countP (fun r : String × Double => r.2.isFinite) (l := t)
    simp only [decide_not, Bool.decide_eq_true] at hsum
    rw [← List.countP_eq_length_filter]
    omega
  simp only [rowsOf, hrows, List.length_map, List.length_filter_eq_length_iff, hcount]
  split <;> rename_i hall
  · rw [List.filter_eq_self.mpr hall]
  · rfl

/-- What becomes of the document of a snapshot. -/
theorem ofJson_readBack (s : Snapshot) : ofJson s.readBack =
    if ∀ r ∈ s.data, r.2.isFinite = true then
      .ok ⟨Table.ofRows s.data, Table.ofRows s.timestamps⟩
    else .error (s.data.countP fun r => !r.2.isFinite) := by
  have hdata : table double? "Data" "data"
      [("Data", .object (s.data.map fun r => (r.1, doubleDocument r.2))),
        ("Timestamps", .object (s.timestamps.map fun r => (r.1, .int r.2)))] =
      rowsOf double? (s.data.map fun r => (r.1, doubleDocument r.2)) := by
    simp [table, lastField?]
  have htimes : table second? "Timestamps" "timestamps"
      [("Data", .object (s.data.map fun r => (r.1, doubleDocument r.2))),
        ("Timestamps", .object (s.timestamps.map fun r => (r.1, .int r.2)))] =
      rowsOf second? (s.timestamps.map fun r => (r.1, .int r.2)) := by
    simp [table, lastField?]
  rw [readBack, ofJson, hdata, htimes, rowsOf_second, rowsOf_double]
  by_cases hall : ∀ r ∈ s.data, r.2.isFinite = true
  · rw [if_pos hall, if_pos hall]
  · rw [if_neg hall, if_neg hall]

/-- **A snapshot of finite values is read back from its file.** -/
theorem ofBytes_toText {s : Snapshot} (hs : s.Fileable) (hfinite : ∀ r ∈ s.data, r.2.isFinite) :
    ofBytes (Text.encodeUtf8 s.toText) = .ok s := by
  rw [ofBytes_toText_eq hs.seconds, ofJson_readBack, if_pos hfinite,
    Table.ofRows_eq_self hs.dataKeys, Table.ofRows_eq_self hs.timestampKeys]

/-- **One value that is not finite spoils the whole file.** -/
theorem ofBytes_toText_of_not_finite {s : Snapshot}
    (hseconds : ∀ r ∈ s.timestamps, rules.AdmitsInt r.2)
    (hvalue : ¬ ∀ r ∈ s.data, r.2.isFinite) :
    ofBytes (Text.encodeUtf8 s.toText) = .error (s.data.countP fun r => !r.2.isFinite) := by
  rw [ofBytes_toText_eq hseconds, ofJson_readBack, if_neg hvalue]

end Snapshot

/-! ## Stores and their snapshots -/

namespace Store

/-- A store that a file can hold. -/
structure Fileable (s : Store) : Prop where
  keys : s.rows.keys.Nodup
  seconds : ∀ r ∈ s.rows, Snapshot.rules.AdmitsInt r.2.time

/-- Whether all values of a store are finite. -/
def AllFinite (s : Store) : Prop := ∀ r ∈ s.rows, r.2.value.isFinite = true

instance (s : Store) : Decidable s.AllFinite :=
  inferInstanceAs (Decidable (∀ r ∈ s.rows, r.2.value.isFinite = true))

theorem Fileable.snapshot {s : Store} (hs : s.Fileable) : s.snapshot.Fileable where
  dataKeys := by
    rw [Store.snapshot, Table.keys_map]
    exact hs.keys
  timestampKeys := by
    rw [Store.snapshot, Table.keys_map]
    exact hs.keys
  seconds := List.forall_mem_map.mpr hs.seconds

theorem allFinite_iff_snapshot {s : Store} :
    s.AllFinite ↔ ∀ r ∈ s.snapshot.data, r.2.isFinite = true := by
  rw [snapshot, List.forall_mem_map]
  rfl

/-- **A store without repeated keys is its snapshot.** -/
theorem ofSnapshot_snapshot {s : Store} (hkeys : s.rows.keys.Nodup) :
    ofSnapshot s.snapshot = s := by
  have hrow : ∀ r ∈ s.rows, ((s.snapshot.timestamps.get? r.1).map fun t =>
      (r.1, (⟨r.2.value, t⟩ : Sample))) = some r := by
    intro r hr
    have htime := Table.get?_map Sample.time r.1 s.rows
    rw [Table.get?_of_mem hkeys hr, Option.map_some] at htime
    rw [snapshot, htime]
    rfl
  rw [ofSnapshot]
  refine congrArg Store.mk ?_
  rw [snapshot, List.filterMap_map]
  exact (List.filterMap_congr hrow).trans List.filterMap_some

/-- **What a saved store is read back as**: itself, or nothing at all. -/
theorem ofBytes_snapshot {s : Store} (hs : s.Fileable) :
    (s.AllFinite → Snapshot.ofBytes (Text.encodeUtf8 s.snapshot.toText) = .ok s.snapshot) ∧
      (¬ s.AllFinite →
        ∃ n, Snapshot.ofBytes (Text.encodeUtf8 s.snapshot.toText) = .error n) := by
  refine ⟨fun hfinite => ?_, fun hvalue => ?_⟩
  · exact Snapshot.ofBytes_toText hs.snapshot (allFinite_iff_snapshot.mp hfinite)
  · rw [allFinite_iff_snapshot] at hvalue
    exact ⟨_, Snapshot.ofBytes_toText_of_not_finite hs.snapshot.seconds hvalue⟩

end Store

end Baseline
