import Baseline.Settings.Merge

/-!
# Maps by their text keys

* `Entries.field?_put_of_text`, `Entries.field?_put_of_ne` : what a write does to the value at a
  text key.
* `Entries.Distinct` : no two keys of a map are equal; every map that is written entry by entry is
  such a map.
* `Entries.field?_overlay` : **what stands at a text key when one map is laid over another.**
* `Entries.keys_overlay` : **in which order the keys of one map over another come.**
-/

set_option autoImplicit false

namespace Baseline

/-! ## Equality with a text -/

namespace Value

/-- **What equals a text is a text of the same characters**, as a kind is one. -/
theorem equal_iff_of_text {k : Value} {name : String} (hk : k.text? = some name) (v : Value) :
    v.equal k = true ↔ v.text? = some name := by
  have hquantity : k.quantity? = none := by
    cases k with
    | text s => rfl
    | kind c => rfl
    | _ => cases hk
  cases v with
  | text s =>
    rw [equal, hk]
    exact beq_iff_eq.trans eq_comm
  | kind c =>
    rw [equal, hk]
    exact beq_iff_eq.trans eq_comm
  | bool b => simp [equal, equal.sameQuantity, hquantity, text?]
  | int n => simp [equal, equal.sameQuantity, hquantity, text?]
  | float x => simp [equal, equal.sameQuantity, hquantity, text?]
  | decimal d => simp [equal, equal.sameQuantity, hquantity, text?]
  | _ =>
    cases k with
    | text s => simp [equal, text?]
    | kind c => simp [equal, text?]
    | _ => cases hk

theorem text?_of_equal {v k : Value} {name : String} (h : v.equal k = true)
    (hv : v.text? = some name) : k.text? = some name := by
  cases v with
  | text s =>
    cases hv
    rw [equal] at h
    exact eq_of_beq h
  | kind c =>
    cases hv
    rw [equal] at h
    exact eq_of_beq h
  | _ => cases hv

end Value

namespace Entries

variable {es : Entries} {name : String}

/-! ## Writing -/

theorem field?_cons (k v : Value) (rest : Entries) (name : String) :
    field? name ((k, v) :: rest) = if k.text? = some name then some v else field? name rest := by
  have hequal := Value.equal_iff_of_text (k := .text name) rfl k
  unfold field?
  rw [get?]
  by_cases hk : k.text? = some name
  · rw [if_pos (hequal.mpr hk), if_pos hk]
  · rw [if_neg (fun h => hk (hequal.mp h)), if_neg hk]

/-- A map of one entry, looked up by a text. -/
theorem field?_single (key name : String) (value : Value) :
    field? name [(.text key, value)] = if key = name then some value else none := by
  rw [field?_cons]
  simp only [Value.text?, Option.some.injEq]
  rfl

/-- A text is looked up as any value is. -/
theorem get?_of_text {k : Value} (hk : k.text? = some name) : es.get? k = es.field? name := by
  induction es with
  | nil => rfl
  | cons e rest ih =>
    obtain ⟨k', v⟩ := e
    have hequal := Value.equal_iff_of_text hk k'
    rw [field?_cons, get?, ih]
    by_cases hk' : k'.text? = some name
    · rw [if_pos (hequal.mpr hk'), if_pos hk']
    · rw [if_neg (fun h => hk' (hequal.mp h)), if_neg hk']

theorem field?_put_of_text {k : Value} (hk : k.text? = some name) (v : Value) :
    (es.put k v).field? name = some v := by
  induction es with
  | nil => rw [put, field?_cons, if_pos hk]
  | cons e rest ih =>
    obtain ⟨k', v'⟩ := e
    have hequal := Value.equal_iff_of_text hk k'
    rw [put]
    by_cases hk' : k'.text? = some name
    · rw [if_pos (hequal.mpr hk'), field?_cons, if_pos hk']
    · rw [if_neg (fun h => hk' (hequal.mp h)), field?_cons, if_neg hk', ih]

theorem field?_put_of_ne {k : Value} (hk : k.text? ≠ some name) (v : Value) :
    (es.put k v).field? name = es.field? name := by
  induction es with
  | nil => rw [put, field?_cons, if_neg hk]
  | cons e rest ih =>
    obtain ⟨k', v'⟩ := e
    rw [put]
    by_cases hequal : k'.equal k = true
    · have hk' : k'.text? ≠ some name := fun h => hk (Value.text?_of_equal hequal h)
      rw [if_pos hequal, field?_cons, field?_cons, if_neg hk', if_neg hk']
    · rw [if_neg hequal, field?_cons, field?_cons, ih]

/-! ## Distinct keys -/

/-- No two keys of a map are equal. -/
def Distinct (es : Entries) : Prop := es.Pairwise fun e f => e.1.equal f.1 = false

theorem key_of_mem_put {k v : Value} {e : Value × Value} (h : e ∈ es.put k v) :
    e.1 = k ∨ ∃ e' ∈ es, e'.1 = e.1 := by
  induction es with
  | nil =>
    rw [put, List.mem_singleton] at h
    exact Or.inl (by rw [h])
  | cons e' rest ih =>
    obtain ⟨k', v'⟩ := e'
    rw [put] at h
    split at h
    · rcases List.mem_cons.mp h with rfl | h
      · exact Or.inr ⟨(k', v'), List.mem_cons_self, rfl⟩
      · exact Or.inr ⟨e, List.mem_cons_of_mem _ h, rfl⟩
    · rcases List.mem_cons.mp h with rfl | h
      · exact Or.inr ⟨(k', v'), List.mem_cons_self, rfl⟩
      · rcases ih h with hk | ⟨e', he', hkey⟩
        · exact Or.inl hk
        · exact Or.inr ⟨e', List.mem_cons_of_mem _ he', hkey⟩

/-- **A write keeps the keys distinct.** -/
theorem Distinct.put (h : es.Distinct) (k v : Value) : (es.put k v).Distinct := by
  induction es with
  | nil => exact List.pairwise_singleton _ _
  | cons e rest ih =>
    obtain ⟨k', v'⟩ := e
    obtain ⟨hfirst, hrest⟩ := List.pairwise_cons.mp h
    rw [Entries.put]
    split
    · exact List.pairwise_cons.mpr ⟨hfirst, hrest⟩
    · rename_i hne
      refine List.pairwise_cons.mpr ⟨fun f hf => ?_, ih hrest⟩
      rcases key_of_mem_put hf with hk | ⟨f', hf', hkey⟩
      · rw [hk]
        exact Bool.eq_false_iff.mpr hne
      · rw [← hkey]
        exact hfirst f' hf'

/-- A map that is written entry by entry has distinct keys. -/
theorem distinct_ofList (rows : Entries) : (ofList rows).Distinct := by
  have hfold : ∀ es : Entries, es.Distinct →
      (rows.foldl (fun acc e => acc.put e.1 e.2) es).Distinct := by
    induction rows with
    | nil => exact fun _ h => h
    | cons e rest ih => exact fun es h => ih _ (h.put e.1 e.2)
  exact hfold [] List.Pairwise.nil

/-- Behind an entry with a text key there is no other one with that key. -/
theorem field?_of_distinct_cons {k v : Value} {rest : Entries} (h : Distinct ((k, v) :: rest))
    (hk : k.text? = some name) : field? name rest = none := by
  obtain ⟨hfirst, -⟩ := List.pairwise_cons.mp h
  clear h
  induction rest with
  | nil => rfl
  | cons e rest ih =>
    obtain ⟨k', v'⟩ := e
    have hk' : k'.text? ≠ some name := by
      intro hk'
      have hequal := (Value.equal_iff_of_text hk' k).mpr hk
      rw [hfirst (k', v') List.mem_cons_self] at hequal
      cases hequal
    rw [field?_cons, if_neg hk']
    exact ih fun f hf => hfirst f (List.mem_cons_of_mem _ hf)

/-! ## One map over another -/

/-- **What stands at a text key when one map is laid over another**: the upper value over the lower
one, or the lower one alone. -/
theorem field?_overlay {upper : Entries} (h : upper.Distinct) (lower : Entries) (name : String) :
    (lower.overlay upper).field? name =
      match upper.field? name with
      | some v => some (overlayValue (lower.field? name) v)
      | none => lower.field? name := by
  induction upper generalizing lower with
  | nil => rw [overlay, show field? name [] = none from rfl]
  | cons e rest ih =>
    obtain ⟨k, v⟩ := e
    rw [overlay, ih (List.pairwise_cons.mp h).2, field?_cons]
    by_cases hk : k.text? = some name
    · rw [field?_of_distinct_cons h hk, if_pos hk, field?_put_of_text hk, get?_of_text hk]
    · rw [if_neg hk, field?_put_of_ne hk]

/-- Over nothing a value is itself. -/
@[simp] theorem overlayValue_none (v : Value) : overlayValue none v = v := by
  cases v <;> rfl

/-- Over nothing a map keeps its values. -/
theorem field?_overlay_nil (h : es.Distinct) (name : String) :
    (overlay [] es).field? name = es.field? name := by
  rw [field?_overlay h]
  cases es.field? name with
  | none => rfl
  | some v => exact congrArg some (overlayValue_none v)

/-! ## Order of the keys -/

/-- The keys of a map, in order. -/
def keys (es : Entries) : List Value := es.map (·.1)

theorem keys_put (es : Entries) (k v : Value) :
    (es.put k v).keys = if (es.get? k).isNone then es.keys ++ [k] else es.keys := by
  induction es with
  | nil => rfl
  | cons e rest ih =>
    obtain ⟨k', v'⟩ := e
    rw [put, get?]
    by_cases hequal : k'.equal k = true
    · rw [if_pos hequal, if_pos hequal]
      rfl
    · rw [if_neg hequal, if_neg hequal]
      simp only [keys, List.map_cons] at ih ⊢
      rw [ih]
      split <;> rfl

/-- A write makes no other key present. -/
theorem isNone_get?_put {k k' : Value} (hne : k.equal k' = false) (es : Entries) (v : Value) :
    ((es.put k v).get? k').isNone = (es.get? k').isNone := by
  induction es with
  | nil => simp [put, get?, hne]
  | cons e rest ih =>
    obtain ⟨k₀, v₀⟩ := e
    rw [put]
    by_cases hequal : k₀.equal k = true
    · rw [if_pos hequal, get?, get?]
      split <;> rfl
    · rw [if_neg hequal, get?, get?, apply_ite Option.isNone, apply_ite Option.isNone, ih]

/-- **The keys of one map over another**: those of the lower map, and then the new ones. -/
theorem keys_overlay {upper : Entries} (h : upper.Distinct) (lower : Entries) :
    (lower.overlay upper).keys =
      lower.keys ++ upper.keys.filter fun key => (lower.get? key).isNone := by
  induction upper generalizing lower with
  | nil => rw [overlay, show keys [] = [] from rfl, List.filter_nil, List.append_nil]
  | cons e rest ih =>
    obtain ⟨k, v⟩ := e
    obtain ⟨hfirst, hrest⟩ := List.pairwise_cons.mp h
    have hkeys : ∀ key ∈ keys rest, k.equal key = false := by
      intro key hkey
      obtain ⟨f, hf, rfl⟩ := List.mem_map.mp hkey
      exact hfirst f hf
    rw [overlay, ih hrest, keys_put,
      List.filter_congr fun key hkey => isNone_get?_put (hkeys key hkey) lower _,
      show keys ((k, v) :: rest) = k :: keys rest from rfl, List.filter_cons]
    split
    · rw [List.append_assoc]
      rfl
    · rfl

end Entries

end Baseline
