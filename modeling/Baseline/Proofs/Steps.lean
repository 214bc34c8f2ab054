import Baseline.Fault

/-!
# Steps that raise

What is done item by item raises if one of the items does, and what is done one after the other
raises if one of the parts does.

* `filterM_of_ok`, `mem_of_filterM` : asking about every item of a list.
* `mapM_eq_error_iff`, `exists_of_mapM` : doing something with every item.
* `Raises` : a step raises something.  Its lemmas take a step apart.
-/

set_option autoImplicit false

namespace Baseline

/-! ## Asking about every item -/

theorem filterAuxM_of_ok {α ε : Type} {ask : α → Except ε Bool} {yes : α → Bool} {xs : List α}
    (h : ∀ x ∈ xs, ask x = .ok (yes x)) (acc : List α) :
    xs.filterAuxM ask acc = .ok ((xs.filter yes).reverse ++ acc) := by
  induction xs generalizing acc with
  | nil => rfl
  | cons x rest ih =>
    have hrest := ih (fun y hy => h y (List.mem_cons_of_mem x hy)) (cond (yes x) (x :: acc) acc)
    have hstep : (x :: rest).filterAuxM ask acc =
        rest.filterAuxM ask (cond (yes x) (x :: acc) acc) := by
      rw [List.filterAuxM, h x List.mem_cons_self]
      rfl
    rw [hstep, hrest, List.filter_cons]
    cases yes x with
    | true =>
      rw [cond_true, if_pos rfl, List.reverse_cons, List.append_assoc, List.singleton_append]
    | false => rw [cond_false, if_neg Bool.false_ne_true]

/-- Where every question has an answer, the items with the answer yes are left. -/
theorem filterM_of_ok {α ε : Type} {ask : α → Except ε Bool} {yes : α → Bool} {xs : List α}
    (h : ∀ x ∈ xs, ask x = .ok (yes x)) : xs.filterM ask = .ok (xs.filter yes) := by
  rw [List.filterM, filterAuxM_of_ok h, List.append_nil]
  exact congrArg Except.ok (List.reverse_reverse _)

theorem mem_of_filterAuxM {α ε : Type} {ask : α → Except ε Bool} {xs acc ys : List α}
    (h : xs.filterAuxM ask acc = .ok ys) {y : α} (hy : y ∈ ys) :
    y ∈ acc ∨ y ∈ xs ∧ ask y = .ok true := by
  induction xs generalizing acc with
  | nil =>
    cases h
    exact Or.inl hy
  | cons x rest ih =>
    obtain ⟨answer, hx, hrest⟩ := bind_eq_ok h
    rcases ih hrest with hacc | ⟨hmem, hy⟩
    · cases answer with
      | false => exact Or.inl hacc
      | true =>
        rcases List.mem_cons.mp hacc with rfl | hacc
        · exact Or.inr ⟨List.mem_cons_self, hx⟩
        · exact Or.inl hacc
    · exact Or.inr ⟨List.mem_cons_of_mem x hmem, hy⟩

/-- What is left of a list after every item was asked about has the answer yes. -/
theorem mem_of_filterM {α ε : Type} {ask : α → Except ε Bool} {xs ys : List α}
    (h : xs.filterM ask = .ok ys) {y : α} (hy : y ∈ ys) : y ∈ xs ∧ ask y = .ok true := by
  obtain ⟨zs, hzs, hreverse⟩ := bind_eq_ok h
  cases hreverse
  rcases mem_of_filterAuxM hzs (List.mem_reverse.mp hy) with hnil | hasked
  · cases hnil
  · exact hasked

/-! ## Doing something with every item -/

theorem mapM_eq_error_iff {ε α β : Type} {f : α → Except ε β} {xs : List α} :
    (∃ e, xs.mapM f = .error e) ↔ ∃ x ∈ xs, ∃ e, f x = .error e := by
  induction xs with
  | nil => simp [pure, Except.pure]
  | cons x rest ih =>
    rw [List.mapM_cons]
    cases hx : f x with
    | error e => exact iff_of_true ⟨e, rfl⟩ ⟨x, List.mem_cons_self, e, hx⟩
    | ok y =>
      have hrest : (∃ e, (do let ys ← rest.mapM f; pure (y :: ys)) = Except.error e) ↔
          ∃ e, rest.mapM f = .error e := by
        cases rest.mapM f <;> simp [bind, Except.bind, pure, Except.pure]
      simp only [List.mem_cons, exists_eq_or_imp, hx, reduceCtorEq, exists_false, false_or]
      exact hrest.trans ih

/-- What is got from the items is got from one of them. -/
theorem exists_of_mapM {ε α β : Type} {f : α → Except ε β} {xs : List α} {ys : List β}
    (h : xs.mapM f = .ok ys) {y : β} (hy : y ∈ ys) : ∃ x ∈ xs, f x = .ok y := by
  induction xs generalizing ys with
  | nil =>
    cases h
    cases hy
  | cons x rest ih =>
    rw [List.mapM_cons] at h
    obtain ⟨z, hz, h⟩ := bind_eq_ok h
    obtain ⟨zs, hzs, h⟩ := bind_eq_ok h
    cases h
    rcases List.mem_cons.mp hy with rfl | hy
    · exact ⟨x, List.mem_cons_self, hz⟩
    · obtain ⟨a, ha, hy⟩ := ih hzs hy
      exact ⟨a, List.mem_cons_of_mem x ha, hy⟩

/-! ## Raising -/

/-- A step raises something. -/
def Raises {ε α : Type} (x : Except ε α) : Prop := ∃ e, x = .error e

section Raising

variable {ε α β : Type}

@[simp] theorem not_raises_ok (a : α) : ¬ Raises (.ok a : Except ε α) := fun ⟨_, h⟩ => by cases h

@[simp] theorem not_raises_pure (a : α) : ¬ Raises (pure a : Except ε α) := not_raises_ok a

@[simp] theorem raises_error (e : ε) : Raises (.error e : Except ε α) := ⟨e, rfl⟩

theorem not_raises_iff {x : Except ε α} : ¬ Raises x ↔ ∃ a, x = .ok a := by
  cases x with
  | error e => exact iff_of_false (fun h => h (raises_error e)) fun ⟨_, h⟩ => by cases h
  | ok a => exact iff_of_true (not_raises_ok a) ⟨a, rfl⟩

@[simp] theorem raises_bind {x : Except ε α} {f : α → Except ε β} :
    Raises (x >>= f) ↔ Raises x ∨ ∃ a, x = .ok a ∧ Raises (f a) := by
  cases x with
  | error e => exact iff_of_true ⟨e, rfl⟩ (.inl ⟨e, rfl⟩)
  | ok a =>
    constructor
    · exact fun h => .inr ⟨a, rfl, h⟩
    · rintro (h | ⟨_, h, hf⟩)
      · exact absurd h (not_raises_ok a)
      · cases h
        exact hf

theorem raises_mapM {f : α → Except ε β} {xs : List α} :
    Raises (xs.mapM f) ↔ ∃ x ∈ xs, Raises (f x) :=
  mapM_eq_error_iff

end Raising

end Baseline
