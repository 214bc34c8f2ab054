import Baseline.Proofs.Settings.Paths
import Baseline.Settings.Basic

/-!
# Maps that say the same

Two maps may hold the same at every path and yet have their keys in different orders.

* `Value.Alike` : two values have the same outline at every path.
* `Value.Alike.overlay` : laid over one map, maps that are alike make maps that are alike.
* `Settings.ofEntriesBy_of_alike` : settings, and what is wrong with them, are told by what stands at
  the paths.
* `Settings.hasTextKeys_overlay` : laid over a map, text keys add no key that is no text.
-/

set_option autoImplicit false

namespace Baseline

open Entries

namespace Value

variable {a b : Entries}

/-- What is seen of two values is the same at every path. -/
def Alike (v w : Value) : Prop := ∀ path, v.outlineAt path = w.outlineAt path

/-- Under a key, maps that are alike both have nothing, or the same value that is no map, or maps
that are alike again. -/
theorem Alike.field (h : (map a).Alike (map b)) (name : String) :
    (a.field? name = none ∧ b.field? name = none) ∨
      (∃ v : Value, v.isMap = false ∧ a.field? name = some v ∧ b.field? name = some v) ∨
      ∃ inner inner' : Entries, a.field? name = some (map inner) ∧
        b.field? name = some (map inner') ∧ (map inner).Alike (map inner') := by
  have hpath : ∀ path, (a.field? name).bind (·.outlineAt path) =
      (b.field? name).bind (·.outlineAt path) := by
    intro path
    rw [← outlineAt_map_cons, ← outlineAt_map_cons]
    exact h (name :: path)
  have hkey := hpath []
  cases ha : a.field? name with
  | none =>
    cases hb : b.field? name with
    | none => exact .inl ⟨rfl, rfl⟩
    | some w =>
      rw [ha, hb, Option.bind_some, outlineAt_nil] at hkey
      cases hkey
  | some v =>
    cases hb : b.field? name with
    | none =>
      rw [ha, hb, Option.bind_some, outlineAt_nil] at hkey
      cases hkey
    | some w =>
      rw [ha, hb] at hpath hkey
      simp only [Option.bind_some, outlineAt_nil, Option.some.injEq] at hpath hkey
      cases hv : v.outline with
      | none =>
        rw [hv] at hkey
        obtain ⟨inner, rfl⟩ := outline_eq_none_iff.mp hv
        obtain ⟨inner', rfl⟩ := outline_eq_none_iff.mp hkey.symm
        exact .inr (.inr ⟨inner, inner', rfl, rfl, hpath⟩)
      | some x =>
        rw [hv] at hkey
        obtain ⟨rfl, hleaf⟩ := outline_eq_some_iff.mp hv
        obtain ⟨rfl, -⟩ := outline_eq_some_iff.mp hkey.symm
        exact .inr (.inl ⟨w, hleaf, rfl, rfl⟩)

/-- Whether a path is lacked is told by the outlines along it. -/
theorem lacks_iff_outlineAt {v : Value} {path : List String} :
    v.Lacks path ↔ ∃ before key rest, path = before ++ key :: rest ∧
      v.outlineAt before = some none ∧ v.outlineAt (before ++ [key]) = none := by
  have hnext : ∀ {before : List String} {es : Entries} (key : String),
      v.at? before = some (map es) →
      (v.outlineAt (before ++ [key]) = none ↔ es.field? key = none) := by
    intro before es key hat
    rw [outlineAt, at?_append, hat, Option.bind_some, at?_map_cons]
    cases es.field? key <;> simp
  constructor
  · rintro ⟨before, key, rest, es, rfl, hat, hnone⟩
    exact ⟨before, key, rest, rfl, outlineAt_eq_map_iff.mpr ⟨es, hat⟩, (hnext key hat).mpr hnone⟩
  · rintro ⟨before, key, rest, rfl, hmap, hnone⟩
    obtain ⟨es, hat⟩ := outlineAt_eq_map_iff.mp hmap
    exact ⟨before, key, rest, es, rfl, hat, (hnext key hat).mp hnone⟩

/-- **Laid over one map, maps that are alike make maps that are alike.** -/
theorem Alike.overlay (h : (map a).Alike (map b)) (ha : a.DistinctThroughout)
    (hb : b.DistinctThroughout) (lower : Entries) :
    (map (lower.overlay a)).Alike (map (lower.overlay b)) := by
  intro path
  have hlacks : (map a).Lacks path ↔ (map b).Lacks path := by
    have hsame : ∀ path, (map a).outlineAt path = (map b).outlineAt path := h
    rw [lacks_iff_outlineAt, lacks_iff_outlineAt]
    simp only [hsame]
  by_cases hl : (map a).Lacks path
  · rw [outlineAt, outlineAt, at?_overlay_of_lacks ha hl, at?_overlay_of_lacks hb (hlacks.mp hl)]
  · rw [outlineAt_overlay_of_not_lacks ha hl, outlineAt_overlay_of_not_lacks hb (hl ∘ hlacks.mpr)]
    exact h path

end Value

open Value

/-! ## Reading settings -/

section Reading

variable {α : Type} {a b : Entries}

/-- A field that takes no map is read alike from maps that are alike. -/
theorem field_of_alike (h : (Value.map a).Alike (.map b)) {read : Value → Except ViolationCause α}
    (hread : ∀ es es', read (.map es) = read (.map es')) (name : String) (default : α) :
    Checked.field name default read a = Checked.field name default read b := by
  unfold Checked.field
  rcases h.field name with ⟨ha, hb⟩ | ⟨v, -, ha, hb⟩ | ⟨inner, inner', ha, hb, -⟩
  · rw [ha, hb]
  · rw [ha, hb]
  · rw [ha, hb]
    dsimp only
    rw [hread inner inner']

theorem nested_of_alike (h : (Value.map a).Alike (.map b)) {read : Entries → Checked α}
    (hread : ∀ es es' : Entries, (Value.map es).Alike (.map es') → read es = read es')
    (name schema : String) (default : α) :
    Checked.nested name schema default read a = Checked.nested name schema default read b := by
  unfold Checked.nested
  rcases h.field name with ⟨ha, hb⟩ | ⟨v, -, ha, hb⟩ | ⟨inner, inner', ha, hb, halike⟩
  · rw [ha, hb]
  · rw [ha, hb]
  · rw [ha, hb]
    dsimp only
    rw [hread inner inner' halike]

theorem StoreSettings.ofEntriesBy_of_alike (h : (Value.map a).Alike (.map b)) :
    StoreSettings.ofEntriesBy .lax a = StoreSettings.ofEntriesBy .lax b := by
  unfold StoreSettings.ofEntriesBy
  rw [field_of_alike h (fun _ _ => rfl) "persist", field_of_alike h (fun _ _ => rfl) "path",
    field_of_alike h (fun _ _ => rfl) "base_dir", field_of_alike h (fun _ _ => rfl) "ttl_seconds"]

theorem LoggingSettings.ofEntriesBy_of_alike (h : (Value.map a).Alike (.map b)) :
    LoggingSettings.ofEntriesBy .lax a = LoggingSettings.ofEntriesBy .lax b := by
  unfold LoggingSettings.ofEntriesBy
  rw [field_of_alike h (fun _ _ => rfl) "level", field_of_alike h (fun _ _ => rfl) "json_format",
    field_of_alike h (fun _ _ => rfl) "log_to_stderr"]

/-- **Maps that are alike describe the same settings**, or are refused for the same reasons. -/
theorem Settings.ofEntriesBy_of_alike (h : (Value.map a).Alike (.map b)) :
    Settings.ofEntriesBy .lax a = Settings.ofEntriesBy .lax b := by
  unfold Settings.ofEntriesBy
  rw [nested_of_alike h (fun _ _ => StoreSettings.ofEntriesBy_of_alike) "store",
    nested_of_alike h (fun _ _ => LoggingSettings.ofEntriesBy_of_alike) "logging"]

end Reading

/-! ## Text keys -/

namespace Settings

theorem hasTextKeys_iff {es : Entries} : hasTextKeys es ↔ ∀ k ∈ es.keys, k.text?.isSome := by
  unfold hasTextKeys keys
  rw [List.all_eq_true, List.forall_mem_map]

/-- A map under one whose keys are distinct texts. -/
theorem hasTextKeys_overlay {upper : Entries} (h : upper.Distinct) (htext : hasTextKeys upper)
    (lower : Entries) : hasTextKeys (lower.overlay upper) = hasTextKeys lower := by
  rw [Bool.eq_iff_iff, hasTextKeys_iff, hasTextKeys_iff, keys_overlay h, List.forall_mem_append]
  refine and_iff_left fun k hk => ?_
  exact hasTextKeys_iff.mp htext k (List.mem_filter.mp hk).1

end Settings

end Baseline
