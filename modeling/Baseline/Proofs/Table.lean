import Baseline.Table

/-!
# Tables without repeated keys

* `Table.nodup_keys_put`, `Table.nodup_keys_erase`, `Table.nodup_keys_ofRows` : no operation
  repeats a key.
* `Table.get?_of_mem` : in such a table every row can be looked up.
* `Table.ofRows_eq_self` : such a table is what its rows make, written one after the other.
-/

set_option autoImplicit false

namespace Baseline.Table

variable {α β : Type}

@[simp] theorem keys_cons (r : String × α) (t : Table α) : keys (r :: t) = r.1 :: keys t := rfl

@[simp] theorem keys_map (f : String × α → β) (t : Table α) :
    keys (t.map fun r => (r.1, f r)) = keys t := by
  simp [keys, List.map_map, Function.comp_def]

theorem mem_keys {key : String} {t : Table α} : key ∈ keys t ↔ ∃ v, (key, v) ∈ t := by
  simp [keys]

/-! ## Operations -/

theorem nodup_keys_put (key : String) (value : α) {t : Table α} (h : (keys t).Nodup) :
    (keys (put key value t)).Nodup := by
  rw [keys_put]
  split
  · exact h
  · rename_i hkey
    rw [List.nodup_append]
    refine ⟨h, List.pairwise_singleton _ key, ?_⟩
    rintro a ha b hb rfl
    exact hkey (List.mem_singleton.mp hb ▸ ha)

theorem nodup_keys_erase (key : String) {t : Table α} (h : (keys t).Nodup) :
    (keys (erase key t)).Nodup := by
  rw [keys_erase]
  exact h.filter _

theorem mem_put {key : String} {value : α} {t : Table α} {r : String × α}
    (h : r ∈ put key value t) : r = (key, value) ∨ r ∈ t := by
  induction t with
  | nil => exact Or.inl (List.mem_singleton.mp h)
  | cons s rest ih =>
    obtain ⟨k, v⟩ := s
    rw [put] at h
    split at h
    · rename_i hk
      rcases List.mem_cons.mp h with h | h
      · exact Or.inl (hk ▸ h)
      · exact Or.inr (List.mem_cons_of_mem _ h)
    · rcases List.mem_cons.mp h with h | h
      · exact Or.inr (h ▸ List.mem_cons_self)
      · exact (ih h).imp id (List.mem_cons_of_mem _)

theorem mem_of_mem_erase {key : String} {t : Table α} {r : String × α} (h : r ∈ erase key t) :
    r ∈ t :=
  (List.mem_filter.mp h).1

theorem map_put (f : α → β) (key : String) (value : α) (t : Table α) :
    (put key value t).map (fun r => (r.1, f r.2)) =
      put key (f value) (t.map fun r => (r.1, f r.2)) := by
  induction t with
  | nil => rfl
  | cons r rest ih =>
    by_cases hk : r.1 = key
    · simp [put, hk]
    · simp [put, hk, ih]

theorem map_erase (f : α → β) (key : String) (t : Table α) :
    (erase key t).map (fun r => (r.1, f r.2)) = erase key (t.map fun r => (r.1, f r.2)) := by
  rw [erase, erase, List.filter_map]
  rfl

theorem erase_put (key : String) (value : α) (t : Table α) :
    erase key (put key value t) = erase key t := by
  induction t with
  | nil => simp [put, erase]
  | cons r rest ih =>
    simp only [erase, decide_not] at ih ⊢
    by_cases hk : r.1 = key
    · simp [put, hk]
    · simp [put, hk, ih]

/-! ## Rows written one after the other -/

theorem nodup_keys_foldl_put (rows : List (String × α)) {t : Table α} (h : (keys t).Nodup) :
    (keys (rows.foldl (fun t r => put r.1 r.2 t) t)).Nodup := by
  induction rows generalizing t with
  | nil => exact h
  | cons r rest ih => exact ih (nodup_keys_put r.1 r.2 h)

theorem nodup_keys_ofRows (rows : List (String × α)) : (keys (ofRows rows)).Nodup :=
  nodup_keys_foldl_put rows List.nodup_nil

theorem mem_foldl_put {rows : List (String × α)} {t : Table α} {r : String × α}
    (h : r ∈ rows.foldl (fun t r => put r.1 r.2 t) t) : r ∈ t ∨ r ∈ rows := by
  induction rows generalizing t with
  | nil => exact Or.inl h
  | cons s rest ih =>
    rcases ih h with h | h
    · rcases mem_put h with h | h
      · exact Or.inr (h ▸ List.mem_cons_self)
      · exact Or.inl h
    · exact Or.inr (List.mem_cons_of_mem _ h)

theorem mem_of_mem_ofRows {rows : List (String × α)} {r : String × α} (h : r ∈ ofRows rows) :
    r ∈ rows :=
  (mem_foldl_put h).resolve_left (List.not_mem_nil)

theorem put_of_notMem {key : String} (value : α) {t : Table α} (h : key ∉ keys t) :
    put key value t = t ++ [(key, value)] := by
  induction t with
  | nil => rfl
  | cons r rest ih =>
    rw [keys_cons, List.mem_cons, not_or] at h
    rw [put, if_neg (Ne.symm h.1), ih h.2, List.cons_append]

theorem foldl_put_eq_append {rows : List (String × α)} {t : Table α}
    (h : (keys (t ++ rows)).Nodup) : rows.foldl (fun t r => put r.1 r.2 t) t = t ++ rows := by
  induction rows generalizing t with
  | nil => rw [List.append_nil, List.foldl_nil]
  | cons r rest ih =>
    have hfresh : r.1 ∉ keys t := by
      rw [keys, List.map_append, List.nodup_append] at h
      exact fun hr => h.2.2 _ hr _ List.mem_cons_self rfl
    rw [List.append_cons] at h
    rw [List.foldl_cons, put_of_notMem r.2 hfresh, ih h, ← List.append_cons]

/-- **A table without repeated keys is made of its own rows.** -/
theorem ofRows_eq_self {t : Table α} (h : (keys t).Nodup) : ofRows t = t :=
  foldl_put_eq_append h

/-! ## Looking up -/

theorem mem_of_get? {key : String} {value : α} {t : Table α} (h : get? key t = some value) :
    (key, value) ∈ t := by
  induction t with
  | nil => cases h
  | cons r rest ih =>
    obtain ⟨k, v⟩ := r
    rw [get?] at h
    split at h
    · rename_i hk
      cases h
      exact hk ▸ List.mem_cons_self
    · exact List.mem_cons_of_mem _ (ih h)

theorem get?_of_mem {key : String} {value : α} {t : Table α} (hkeys : (keys t).Nodup)
    (h : (key, value) ∈ t) : get? key t = some value := by
  induction t with
  | nil => cases h
  | cons r rest ih =>
    obtain ⟨k, v⟩ := r
    rw [keys_cons, List.nodup_cons] at hkeys
    rcases List.mem_cons.mp h with h | h
    · cases h
      rw [get?, if_pos rfl]
    · have hne : k ≠ key := fun hk => hkeys.1 (hk ▸ mem_keys.mpr ⟨value, h⟩)
      rw [get?, if_neg hne, ih hkeys.2 h]

/-- Of rows that are put into a table and of its own, the later ones count. -/
theorem get?_foldl_put {rows : List (String × α)} (hrows : (keys rows).Nodup) (t : Table α)
    (key : String) :
    get? key (rows.foldl (fun t r => put r.1 r.2 t) t) = (get? key rows).or (get? key t) := by
  induction rows generalizing t with
  | nil => rfl
  | cons r rest ih =>
    rw [keys_cons, List.nodup_cons] at hrows
    rw [List.foldl_cons, ih hrows.2, get?]
    by_cases hkey : r.1 = key
    · subst hkey
      have hnone : get? r.1 rest = none := by
        rw [← Option.not_isSome_iff_eq_none, get?_isSome_iff]
        exact hrows.1
      rw [hnone, if_pos rfl, get?_put_self]
      rfl
    · rw [if_neg hkey, get?_put_of_ne (Ne.symm hkey)]

theorem get?_map (f : α → β) (key : String) (t : Table α) :
    get? key (t.map fun r => (r.1, f r.2)) = (get? key t).map f := by
  induction t with
  | nil => rfl
  | cons r rest ih =>
    rw [List.map_cons, get?, get?]
    split
    · rfl
    · exact ih

/-- Rows that are left out by their keys are not missed where another key is looked up. -/
theorem get?_filter (keep : String → Bool) {key : String} (h : keep key = true)
    (t : Table α) : get? key (t.filter fun r => keep r.1) = get? key t := by
  induction t with
  | nil => rfl
  | cons r rest ih =>
    obtain ⟨k, v⟩ := r
    rw [List.filter_cons, get?]
    by_cases hk : k = key
    · subst hk
      rw [if_pos h, get?, if_pos rfl, if_pos rfl]
    · rw [if_neg hk]
      split
      · rw [get?, if_neg hk, ih]
      · exact ih

end Baseline.Table
