import Baseline.Proofs.Settings.Entries

/-!
# Values at paths

What a map of maps says is told by paths: the keys that lead from the outermost map to a value.

* `Value.at?` : the value at a path.
* `Value.outlineAt` : the same, but of a map only that it is one.
* `Value.Lacks` : a path leads to a map that lacks the next key.
* `Entries.DistinctThroughout` : neither a map nor any map in it names a key twice.
* `Entries.at?_overlay_of_lacks`, `Entries.outlineAt_overlay_of_not_lacks` : where the upper map
  lacks a path the lower one decides, and everywhere else the upper one.
* `Entries.overlay_along_paths` : **what stands at each path when one map is laid over another, and
  in which order the keys come.**
-/

set_option autoImplicit false

namespace Baseline

namespace Value

/-! ## Paths -/

/-- Whether a value is a map. -/
def isMap : Value → Bool
  | map _ => true
  | _ => false

/-- The value at a path: each key leads from a map to what stands there. -/
def at? : Value → List String → Option Value
  | v, [] => some v
  | map es, key :: path => (Entries.field? key es).bind fun v => at? v path
  | _, _ :: _ => none

/-- What is seen of a value from outside: of a map nothing but that it is one. -/
def outline : Value → Option Value
  | map _ => none
  | v => some v

/-- What is seen at a path. -/
def outlineAt (v : Value) (path : List String) : Option (Option Value) := (v.at? path).map outline

/-- Walking along a path ends before it is used up, at a map that lacks the next key. -/
def Lacks (v : Value) (path : List String) : Prop :=
  ∃ before key rest, ∃ es : Entries, path = before ++ key :: rest ∧
    v.at? before = some (map es) ∧ es.field? key = none

variable {v w : Value} {es : Entries} {key : String} {path : List String}

@[simp] theorem at?_nil (v : Value) : v.at? [] = some v := by
  cases v <;> rfl

theorem at?_map_cons (es : Entries) (key : String) (path : List String) :
    (map es).at? (key :: path) = (es.field? key).bind (·.at? path) :=
  rfl

theorem at?_cons_of_leaf (h : v.isMap = false) (key : String) (path : List String) :
    v.at? (key :: path) = none := by
  cases v with
  | map es => cases h
  | _ => rfl

/-- **A path is walked one part after the other.** -/
theorem at?_append (v : Value) (before after : List String) :
    v.at? (before ++ after) = (v.at? before).bind (·.at? after) := by
  induction before generalizing v with
  | nil => rw [List.nil_append, at?_nil, Option.bind_some]
  | cons key before ih =>
    cases v with
    | map es =>
      rw [List.cons_append, at?_map_cons, at?_map_cons]
      cases Entries.field? key es with
      | none => rfl
      | some w => exact ih w
    | _ => rfl

/-! ## Outlines -/

theorem outline_of_leaf (h : v.isMap = false) : v.outline = some v := by
  cases v with
  | map es => cases h
  | _ => rfl

theorem outline_eq_none_iff : v.outline = none ↔ ∃ es, v = map es := by
  cases v <;> simp [outline]

theorem outline_eq_some_iff : v.outline = some w ↔ v = w ∧ w.isMap = false := by
  cases v with
  | map es =>
    refine iff_of_false (by simp [outline]) ?_
    rintro ⟨rfl, h⟩
    cases h
  | _ =>
    refine ⟨fun h => ?_, fun h => h.1 ▸ rfl⟩
    cases h
    exact ⟨rfl, rfl⟩

@[simp] theorem outlineAt_nil (v : Value) : v.outlineAt [] = some v.outline := by
  rw [outlineAt, at?_nil, Option.map_some]

theorem outlineAt_map_cons (es : Entries) (key : String) (path : List String) :
    (map es).outlineAt (key :: path) = (es.field? key).bind (·.outlineAt path) := by
  rw [outlineAt, at?_map_cons, Option.map_bind]
  rfl

theorem outlineAt_eq_leaf_iff (h : w.isMap = false) :
    v.outlineAt path = some (some w) ↔ v.at? path = some w := by
  rw [outlineAt, Option.map_eq_some_iff]
  constructor
  · rintro ⟨x, hx, hw⟩
    rw [hx, (outline_eq_some_iff.mp hw).1]
  · exact fun hx => ⟨w, hx, outline_of_leaf h⟩

theorem outlineAt_eq_map_iff : v.outlineAt path = some none ↔ ∃ es, v.at? path = some (map es) := by
  rw [outlineAt, Option.map_eq_some_iff]
  constructor
  · rintro ⟨x, hx, hmap⟩
    obtain ⟨es, rfl⟩ := outline_eq_none_iff.mp hmap
    exact ⟨es, hx⟩
  · rintro ⟨es, hx⟩
    exact ⟨_, hx, rfl⟩

/-- Only a map is walked through. -/
theorem outlineAt_of_append {before after : List String} {o : Option Value} (h : after ≠ [])
    (ho : v.outlineAt (before ++ after) = some o) : v.outlineAt before = some none := by
  rw [outlineAt, at?_append, Option.map_eq_some_iff] at ho
  obtain ⟨x, hx, -⟩ := ho
  obtain ⟨y, hy, hx⟩ := Option.bind_eq_some_iff.mp hx
  cases after with
  | nil => exact absurd rfl h
  | cons key after =>
    cases y with
    | map es => exact outlineAt_eq_map_iff.mpr ⟨es, hy⟩
    | _ => cases hx

/-! ## Paths that lack a key -/

theorem not_lacks_nil : ¬ v.Lacks [] := by
  rintro ⟨before, key, rest, es, hpath, -⟩
  cases before <;> cases hpath

theorem not_lacks_of_leaf (h : v.isMap = false) : ¬ v.Lacks path := by
  rintro ⟨before, key, rest, es, -, hat, -⟩
  cases before with
  | nil =>
    rw [at?_nil, Option.some.injEq] at hat
    rw [hat] at h
    cases h
  | cons k before =>
    rw [at?_cons_of_leaf h] at hat
    cases hat

theorem lacks_cons_iff : (map es).Lacks (key :: path) ↔
    es.field? key = none ∨ ∃ v, es.field? key = some v ∧ v.Lacks path := by
  constructor
  · rintro ⟨before, k, rest, inner, hpath, hat, hnone⟩
    cases before with
    | nil =>
      cases hpath
      cases hat
      exact Or.inl hnone
    | cons b before =>
      cases hpath
      obtain ⟨v, hv, hat⟩ := Option.bind_eq_some_iff.mp hat
      exact Or.inr ⟨v, hv, before, k, rest, inner, rfl, hat, hnone⟩
  · rintro (hnone | ⟨v, hv, before, k, rest, inner, rfl, hat, hnone⟩)
    · exact ⟨[], key, path, es, rfl, rfl, hnone⟩
    · refine ⟨key :: before, k, rest, inner, rfl, ?_, hnone⟩
      rw [at?_map_cons, hv]
      exact hat

/-- At a path that is lacked nothing stands. -/
theorem at?_of_lacks (h : v.Lacks path) : v.at? path = none := by
  obtain ⟨before, key, rest, es, rfl, hat, hnone⟩ := h
  rw [at?_append, hat, Option.bind_some, at?_map_cons, hnone]
  rfl

end Value

namespace Entries

open Value

variable {lower upper es : Entries}

/-! ## Distinct keys -/

/-- Neither a map nor any map in it names a key twice. -/
def DistinctThroughout (es : Entries) : Prop :=
  ∀ path, ∀ inner : Entries, (Value.map es).at? path = some (.map inner) → inner.Distinct

theorem DistinctThroughout.distinct (h : es.DistinctThroughout) : es.Distinct :=
  h [] es rfl

theorem DistinctThroughout.field (h : es.DistinctThroughout) {key : String} {inner : Entries}
    (hkey : es.field? key = some (.map inner)) : inner.DistinctThroughout := by
  intro path found hfound
  refine h (key :: path) found ?_
  rw [at?_map_cons, hkey]
  exact hfound

/-- A map has distinct keys throughout when it has them itself, and so has each map in it. -/
theorem DistinctThroughout.of_fields (hkeys : es.Distinct)
    (hinner : ∀ key, ∀ inner : Entries, es.field? key = some (.map inner) →
      inner.DistinctThroughout) : es.DistinctThroughout := by
  intro path inner h
  cases path with
  | nil =>
    cases h
    exact hkeys
  | cons key path =>
    obtain ⟨v, hv, hat⟩ := Option.bind_eq_some_iff.mp h
    cases v with
    | map found => exact hinner key found hv path inner hat
    | _ => cases path <;> cases hat

theorem DistinctThroughout.nil : DistinctThroughout [] :=
  .of_fields List.Pairwise.nil fun _ _ h => by cases h

theorem DistinctThroughout.put (h : es.DistinctThroughout) (k : Value) {v : Value}
    (hv : ∀ inner : Entries, v = .map inner → inner.DistinctThroughout) :
    (es.put k v).DistinctThroughout := by
  refine .of_fields (h.distinct.put k v) fun key inner hinner => ?_
  by_cases hk : k.text? = some key
  · rw [field?_put_of_text hk] at hinner
    exact hv inner (Option.some.inj hinner)
  · rw [field?_put_of_ne hk] at hinner
    exact h.field hinner

/-! ## One map over another, path by path -/

theorem at?_overlay_cons (h : upper.Distinct) (lower : Entries) (key : String)
    (path : List String) :
    (Value.map (lower.overlay upper)).at? (key :: path) =
      match upper.field? key with
      | some v => (overlayValue (lower.field? key) v).at? path
      | none => (lower.field? key).bind (·.at? path) := by
  rw [at?_map_cons, field?_overlay h]
  cases upper.field? key <;> rfl

/-- A map over anything but a map stands as it is. -/
theorem overlayValue_map_of_not_map {below : Option Value} (h : ∀ es, below ≠ some (.map es))
    (upper : Entries) : overlayValue below (.map upper) = .map upper := by
  unfold overlayValue
  split
  · rename_i es
    exact absurd rfl (h es)
  · rfl

/-- **Where the upper map lacks a path, the lower one decides.** -/
theorem at?_overlay_of_lacks (h : upper.DistinctThroughout) {path : List String}
    (hlacks : (Value.map upper).Lacks path) :
    (Value.map (lower.overlay upper)).at? path = (Value.map lower).at? path := by
  induction path generalizing lower upper with
  | nil => exact absurd hlacks not_lacks_nil
  | cons key path ih =>
    rw [at?_overlay_cons h.distinct, at?_map_cons]
    rcases lacks_cons_iff.mp hlacks with hnone | ⟨v, hv, hlacks⟩
    · rw [hnone]
    rw [hv]
    cases hmap : v.isMap with
    | false => exact absurd hlacks (not_lacks_of_leaf hmap)
    | true =>
      cases v with
      | map above =>
        by_cases hbelow : ∃ below, lower.field? key = some (.map below)
        · obtain ⟨below, hbelow⟩ := hbelow
          rw [hbelow]
          exact ih (h.field hv) hlacks
        · -- nothing stands below a value that is no map, in the upper map as in the lower one
          have hbelow' : ∀ es, lower.field? key ≠ some (.map es) := fun es hes => hbelow ⟨es, hes⟩
          dsimp only
          rw [overlayValue_map_of_not_map hbelow', at?_of_lacks hlacks]
          cases hlower : lower.field? key with
          | none => rfl
          | some w =>
            cases path with
            | nil => exact absurd hlacks not_lacks_nil
            | cons k path =>
              cases w with
              | map below => exact absurd hlower (hbelow' below)
              | _ => rfl
      | _ => cases hmap

/-- **Everywhere else the upper map decides**, up to what stands inside of maps. -/
theorem outlineAt_overlay_of_not_lacks (h : upper.DistinctThroughout) {path : List String}
    (hlacks : ¬ (Value.map upper).Lacks path) :
    (Value.map (lower.overlay upper)).outlineAt path = (Value.map upper).outlineAt path := by
  induction path generalizing lower upper with
  | nil => rfl
  | cons key path ih =>
    rw [lacks_cons_iff, not_or] at hlacks
    obtain ⟨v, hv⟩ := Option.ne_none_iff_exists'.mp hlacks.1
    have hlacks' : ¬ v.Lacks path := fun hl => hlacks.2 ⟨v, hv, hl⟩
    rw [outlineAt, at?_overlay_cons h.distinct, outlineAt_map_cons, hv]
    cases v with
    | map above =>
      by_cases hbelow : ∃ below, lower.field? key = some (.map below)
      · obtain ⟨below, hbelow⟩ := hbelow
        rw [hbelow]
        exact ih (h.field hv) hlacks'
      · dsimp only
        rw [overlayValue_map_of_not_map fun es hes => hbelow ⟨es, hes⟩]
        rfl
    | _ => rfl

/-- **Where both sides have a map at a path, the one is laid over the other there.** -/
theorem at?_overlay_of_maps (h : upper.DistinctThroughout) {path : List String}
    {below above : Entries} (hlower : (Value.map lower).at? path = some (.map below))
    (hupper : (Value.map upper).at? path = some (.map above)) :
    (Value.map (lower.overlay upper)).at? path = some (.map (below.overlay above)) := by
  induction path generalizing lower upper with
  | nil =>
    cases hlower
    cases hupper
    rfl
  | cons key path ih =>
    obtain ⟨v, hv, hupper⟩ := Option.bind_eq_some_iff.mp hupper
    obtain ⟨w, hw, hlower⟩ := Option.bind_eq_some_iff.mp hlower
    have hmap : ∀ {x : Value} {inner : Entries}, x.at? path = some (.map inner) →
        ∃ es, x = .map es := by
      intro x inner hx
      cases x with
      | map es => exact ⟨es, rfl⟩
      | _ => cases path <;> cases hx
    obtain ⟨innerAbove, rfl⟩ := hmap hupper
    obtain ⟨innerBelow, rfl⟩ := hmap hlower
    rw [at?_overlay_cons h.distinct, hv, hw]
    exact ih (h.field hv) hlower hupper

/-- **What one map laid over another says**, at every path.  A value that is no map stands at a path
exactly if it stands there in the upper map, or stands there in the lower one while the upper one
leads to a map that lacks the next key; and so it is with maps.  Where both sides have a map, the
keys are those of the lower map in their order, followed by the new ones of the upper map in
theirs. -/
theorem overlay_along_paths (h : upper.DistinctThroughout) (lower : Entries)
    (path : List String) :
    (∀ v : Value, v.isMap = false →
      ((Value.map (lower.overlay upper)).at? path = some v ↔
        (Value.map upper).at? path = some v ∨
          (Value.map lower).at? path = some v ∧ (Value.map upper).Lacks path)) ∧
    ((∃ es, (Value.map (lower.overlay upper)).at? path = some (.map es)) ↔
      (∃ es, (Value.map upper).at? path = some (.map es)) ∨
        (∃ es, (Value.map lower).at? path = some (.map es)) ∧ (Value.map upper).Lacks path) ∧
    ∀ below above : Entries, (Value.map lower).at? path = some (.map below) →
      (Value.map upper).at? path = some (.map above) →
      ∃ merged : Entries, (Value.map (lower.overlay upper)).at? path = some (.map merged) ∧
        merged.keys = below.keys ++ above.keys.filter fun key => (below.get? key).isNone := by
  refine ⟨fun v hv => ?_, ?_, fun below above hbelow habove => ?_⟩
  · by_cases hlacks : (Value.map upper).Lacks path
    · rw [at?_overlay_of_lacks h hlacks, at?_of_lacks hlacks]
      simp [hlacks]
    · rw [← outlineAt_eq_leaf_iff hv, outlineAt_overlay_of_not_lacks h hlacks,
        outlineAt_eq_leaf_iff hv]
      simp [hlacks]
  · by_cases hlacks : (Value.map upper).Lacks path
    · rw [at?_overlay_of_lacks h hlacks, at?_of_lacks hlacks]
      simp [hlacks]
    · rw [← outlineAt_eq_map_iff, outlineAt_overlay_of_not_lacks h hlacks, outlineAt_eq_map_iff]
      simp [hlacks]
  · have hdistinct := h path above habove
    exact ⟨_, at?_overlay_of_maps h hbelow habove, keys_overlay hdistinct below⟩

/-! ### Sections that meet values, and an empty section -/

namespace TwoTrees

/-- The map below. -/
def below : Entries :=
  [(.text "store", .map [(.text "path", .map [(.text "dir", .int 1)]), (.text "ttl", .int 30)]),
    (.text "logging", .map [(.text "level", .text "info")])]

/-- The section that the map above has under a key that the map below has as well. -/
def store : Entries := put (.text "path") (.text "/srv") (put (.text "id") (.int 2) [])

/-- The map above: it has a value over a map, a new key, and a section without entries. -/
def above : Entries := put (.text "store") (.map store) (put (.text "logging") (.map []) [])

theorem distinctThroughout_above : above.DistinctThroughout := by
  have hleaf : ∀ {v : Value}, v.isMap = false → ∀ inner : Entries, v = .map inner →
      inner.DistinctThroughout := by
    rintro v hv inner rfl
    cases hv
  have hstore : store.DistinctThroughout :=
    (DistinctThroughout.nil.put _ (hleaf rfl)).put _ (hleaf rfl)
  refine (DistinctThroughout.nil.put _ fun inner h => ?_).put _ fun inner h => ?_
  · cases h
    exact .nil
  · cases h
    exact hstore

end TwoTrees

open TwoTrees in
theorem overlay_along_paths_twoTrees : above.DistinctThroughout ∧
    (Value.map (below.overlay above)).at? ["store", "path"] = some (.text "/srv") ∧
    (Value.map (below.overlay above)).at? ["logging", "level"] = some (.text "info") ∧
    (∃ es, (Value.map (below.overlay above)).at? ["logging"] = some (.map es)) ∧
    ∃ merged : Entries, (Value.map (below.overlay above)).at? ["store"] = some (.map merged) ∧
      merged.keys = [.text "path", .text "ttl", .text "id"] := by
  have h := distinctThroughout_above
  have habove : above = [(.text "logging", .map []), (.text "store", .map store)] := by
    simp [above, put, equal, text?]
  have hstore : store = [(.text "id", .int 2), (.text "path", .text "/srv")] := by
    simp [store, put, equal, text?]
  have hlogging : (Value.map above).at? ["logging"] = some (.map []) := by
    simp [habove, at?_map_cons, field?_cons, text?]
  refine ⟨h, ?_, ?_, ?_, ?_⟩
  · have hupper : (Value.map above).at? ["store", "path"] = some (.text "/srv") := by
      simp [habove, hstore, at?_map_cons, field?_cons, text?]
    exact ((overlay_along_paths h below _).1 _ rfl).mpr (.inl hupper)
  · have hlower : (Value.map below).at? ["logging", "level"] = some (.text "info") := by
      simp [below, at?_map_cons, field?_cons, text?]
    have hlacks : (Value.map above).Lacks ["logging", "level"] :=
      ⟨["logging"], "level", [], [], rfl, hlogging, rfl⟩
    exact ((overlay_along_paths h below _).1 _ rfl).mpr (.inr ⟨hlower, hlacks⟩)
  · exact (overlay_along_paths h below _).2.1.mpr (.inl ⟨[], hlogging⟩)
  · have hlower : (Value.map below).at? ["store"] =
        some (.map [(.text "path", .map [(.text "dir", .int 1)]), (.text "ttl", .int 30)]) := by
      simp [below, at?_map_cons, field?_cons, text?]
    have hupper : (Value.map above).at? ["store"] = some (.map store) := by
      simp [habove, at?_map_cons, field?_cons, text?]
    obtain ⟨merged, hmerged, hkeys⟩ := (overlay_along_paths h below _).2.2 _ _ hlower hupper
    refine ⟨merged, hmerged, hkeys.trans ?_⟩
    simp [hstore, keys, Entries.get?, equal, text?]

end Entries

end Baseline
