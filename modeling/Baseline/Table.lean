/-!
# Tables

A table is the list of its rows, each a key with a value, in the order in which the keys came.
Writing to a key that is present keeps its place; a removed key that comes back goes to the
end.

* `get?_put_self`, `get?_put_of_ne` : what a write changes and what it leaves alone.
* `keys_put`, `keys_erase` : the order of the keys.
-/

set_option autoImplicit false

namespace Baseline

/-- Rows of text keys and values. -/
abbrev Table (α : Type) := List (String × α)

namespace Table

variable {α : Type}

/-- The keys, in order. -/
def keys (t : Table α) : List String := t.map (·.1)

/-- The value at a key. -/
def get? (key : String) : Table α → Option α
  | [] => none
  | (k, v) :: rest => if k = key then some v else get? key rest

/-- Writes a value at a key: in place when the key is present, else at the end. -/
def put (key : String) (value : α) : Table α → Table α
  | [] => [(key, value)]
  | (k, v) :: rest => if k = key then (k, value) :: rest else (k, v) :: put key value rest

/-- Removes a key. -/
def erase (key : String) (t : Table α) : Table α := t.filter (·.1 ≠ key)

/-- The rows written one after the other. -/
def ofRows (rows : List (String × α)) : Table α := rows.foldl (fun t r => put r.1 r.2 t) []

theorem get?_put_self (key : String) (value : α) (t : Table α) :
    get? key (put key value t) = some value := by
  induction t with
  | nil => simp [put, get?]
  | cons r rest ih =>
    obtain ⟨k, v⟩ := r
    by_cases h : k = key
    · simp [put, get?, h]
    · simp [put, get?, h, ih]

theorem get?_put_of_ne {key other : String} (h : other ≠ key) (value : α) (t : Table α) :
    get? other (put key value t) = get? other t := by
  induction t with
  | nil => simp [put, get?, Ne.symm h]
  | cons r rest ih =>
    obtain ⟨k, v⟩ := r
    by_cases hk : k = key
    · subst hk; simp [put, get?, Ne.symm h]
    · by_cases ho : k = other
      · subst ho; simp [put, get?, hk]
      · simp [put, get?, hk, ho, ih]

theorem get?_isSome_iff (key : String) (t : Table α) :
    (get? key t).isSome = true ↔ key ∈ keys t := by
  induction t with
  | nil => simp [get?, keys]
  | cons r rest ih =>
    obtain ⟨k, v⟩ := r
    by_cases hk : k = key
    · simp [get?, keys, hk]
    · have hk' : ¬ key = k := fun h => hk h.symm
      simp only [keys] at ih
      simp [get?, keys, hk, hk', ih]

theorem keys_put (key : String) (value : α) (t : Table α) :
    keys (put key value t) = if key ∈ keys t then keys t else keys t ++ [key] := by
  induction t with
  | nil => simp [put, keys]
  | cons r rest ih =>
    obtain ⟨k, v⟩ := r
    by_cases hk : k = key
    · simp [put, keys, hk]
    · have hk' : ¬ key = k := fun h => hk h.symm
      simp only [keys] at ih
      simp only [put, keys, hk, if_false, List.map_cons, ih, List.mem_cons, hk', false_or]
      by_cases hm : key ∈ List.map (fun x => x.1) rest <;> simp [hm]

theorem keys_erase (key : String) (t : Table α) :
    keys (erase key t) = (keys t).filter (· ≠ key) := by
  simp only [keys, erase, List.filter_map]
  rfl

theorem get?_erase_self (key : String) (t : Table α) : get? key (erase key t) = none := by
  induction t with
  | nil => rfl
  | cons r rest ih =>
    obtain ⟨k, v⟩ := r
    unfold erase at ih ⊢
    by_cases hk : k = key
    · rw [List.filter_cons_of_neg (by simpa using hk)]
      exact ih
    · rw [List.filter_cons_of_pos (by simpa using hk)]
      simpa [get?, hk] using ih

theorem get?_erase_of_ne {key other : String} (h : other ≠ key) (t : Table α) :
    get? other (erase key t) = get? other t := by
  induction t with
  | nil => rfl
  | cons r rest ih =>
    obtain ⟨k, v⟩ := r
    unfold erase at ih ⊢
    by_cases hk : k = key
    · have ho : ¬ k = other := fun ho => h (ho.symm.trans hk)
      rw [List.filter_cons_of_neg (by simpa using hk), ih]
      simp [get?, ho]
    · rw [List.filter_cons_of_pos (by simpa using hk)]
      simp only [get?, ih]

end Table

end Baseline
