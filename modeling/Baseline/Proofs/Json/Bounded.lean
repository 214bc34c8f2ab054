import Baseline.Proofs.Json.Number

/-!
# Whole numbers in documents that were read

* `Json.WithinLimit` : every whole number of a document is one that the rules of a reader admit.
* `Json.readBy?_withinLimit` : what the reader gives is such a document, whatever the text.
-/

set_option autoImplicit false

namespace Baseline.Json

open Numeral

variable {rules : Rules}

mutual

/-- Whether every whole number of a document is one that the rules admit. -/
def WithinLimit (rules : Rules) : Json → Prop
  | int n => rules.AdmitsInt n
  | array items => ItemsWithinLimit rules items
  | object fields => FieldsWithinLimit rules fields
  | _ => True

/-- Whether this holds of all items of an array. -/
def ItemsWithinLimit (rules : Rules) : List Json → Prop
  | [] => True
  | j :: rest => WithinLimit rules j ∧ ItemsWithinLimit rules rest

/-- Whether this holds of all fields of an object. -/
def FieldsWithinLimit (rules : Rules) : List (String × Json) → Prop
  | [] => True
  | (_, j) :: rest => WithinLimit rules j ∧ FieldsWithinLimit rules rest

end

theorem fieldsWithinLimit_iff {fields : List (String × Json)} :
    FieldsWithinLimit rules fields ↔ ∀ f ∈ fields, WithinLimit rules f.2 := by
  induction fields with
  | nil => simp [FieldsWithinLimit]
  | cons f rest ih =>
    obtain ⟨name, j⟩ := f
    rw [FieldsWithinLimit, ih, List.forall_mem_cons]

theorem natAbs_signed (neg : Bool) (n : Nat) : (signed neg n).natAbs = n := by
  cases neg <;> simp [signed]

/-- Digits that the rules admit denote a whole number that they admit. -/
theorem admitsInt_signed {neg : Bool} {ds : List Char} (hds : ∀ c ∈ ds, isDigit c = true)
    (hne : ds ≠ []) (h : rules.admits neg false ds = true) :
    rules.AdmitsInt (signed neg (natOfDigits ds)) := by
  have hlen : (natChars (natOfDigits ds)).length ≤ ds.length :=
    (length_natChars_le (List.length_pos_iff.mpr hne)).mpr (natOfDigits_lt hds)
  unfold Rules.AdmitsInt
  rw [natAbs_signed]
  unfold Rules.admits at h ⊢
  split
  · rename_i hbounds
    rw [if_pos hbounds] at h
    unfold signedWithinLimit at h ⊢
    rw [decide_eq_true_eq] at h ⊢
    cases neg with
    | false =>
      have hpos : ¬ signed false (natOfDigits ds) < 0 := Int.not_lt.mpr (Int.natCast_nonneg _)
      rw [decide_eq_false hpos]
      exact Nat.le_trans (Nat.add_le_add_right hlen _) h
    | true =>
      have hsign : (if decide (signed true (natOfDigits ds) < 0) = true then 1 else 0) ≤ 1 := by
        split <;> omega
      exact Nat.le_trans (Nat.add_le_add hlen hsign) h
  · rename_i hbounds
    rw [if_neg hbounds, Bool.false_or, decide_eq_true_eq] at h
    rw [Bool.false_or, decide_eq_true_eq]
    exact Nat.le_trans hlen h

/-- A number is a double, or a whole number the digits of which the rules admit. -/
theorem unsignedNumber?_cases {neg : Bool} {cs : List Char} {r : Json × List Char}
    (h : unsignedNumber? rules neg cs = some r) :
    (∃ x, r.1 = .float x) ∨ (cs.takeWhile isDigit ≠ [] ∧
      rules.admits neg false (cs.takeWhile isDigit) = true ∧
      r.1 = .int (signed neg (natOfDigits (cs.takeWhile isDigit)))) := by
  rw [unsignedNumber?] at h
  dsimp only at h
  split at h
  · cases h
  rename_i hwhole
  split at h
  · rw [Option.ite_none_right_eq_some] at h
    obtain ⟨hadmits, h⟩ := h
    cases h
    refine Or.inr ⟨fun hnil => ?_, hadmits, rfl⟩
    rw [hnil] at hwhole
    exact hwhole rfl
  · rw [Option.ite_none_left_eq_some] at h
    obtain ⟨_, h⟩ := h
    cases h
    exact Or.inl ⟨_, rfl⟩

theorem unsignedNumber?_withinLimit {neg : Bool} {cs : List Char} {r : Json × List Char}
    (h : unsignedNumber? rules neg cs = some r) : WithinLimit rules r.1 := by
  rcases unsignedNumber?_cases h with ⟨x, hx⟩ | ⟨hne, hadmits, hn⟩
  · rw [hx]
    trivial
  · rw [hn, WithinLimit]
    exact admitsInt_signed (List.all_eq_true.mp List.all_takeWhile) hne hadmits

theorem scalar?_withinLimit {cs : List Char} {r : Json × List Char}
    (h : scalar? rules cs = some r) :
    WithinLimit rules r.1 := by
  unfold scalar? at h
  split at h
  · rename_i w hw
    cases h
    have hmem := List.mem_of_find?_eq_some hw
    simp only [words, List.mem_cons, List.not_mem_nil, or_false] at hmem
    rcases hmem with rfl | rfl | rfl | rfl | rfl | rfl <;> trivial
  · split at h
    · exact unsignedNumber?_withinLimit h
    · exact unsignedNumber?_withinLimit h

mutual

theorem value?_withinLimit : ∀ (fuel depth : Nat) {cs : List Char} {r : Json × List Char},
    value? rules fuel depth cs = some r → WithinLimit rules r.1
  | 0, _, _, _, h => by cases h
  | fuel + 1, depth, cs, r, h => by
    unfold value? at h
    split at h
    · rw [Option.map_eq_some_iff] at h
      obtain ⟨_, _, rfl⟩ := h
      trivial
    · split at h
      · rw [Option.ite_none_left_eq_some] at h
        obtain ⟨_, h⟩ := h
        cases h
        trivial
      · rw [Option.ite_none_left_eq_some, Option.map_eq_some_iff] at h
        obtain ⟨_, _, hitems, rfl⟩ := h
        exact items?_withinLimit fuel (depth - 1) hitems
    · split at h
      · rw [Option.ite_none_left_eq_some] at h
        obtain ⟨_, h⟩ := h
        cases h
        trivial
      · rw [Option.ite_none_left_eq_some, Option.map_eq_some_iff] at h
        obtain ⟨_, _, hfields, rfl⟩ := h
        exact fields?_withinLimit fuel (depth - 1) hfields
    · exact scalar?_withinLimit h

theorem items?_withinLimit : ∀ (fuel depth : Nat) {cs : List Char} {r : List Json × List Char},
    items? rules fuel depth cs = some r → ItemsWithinLimit rules r.1
  | 0, _, _, _, h => by cases h
  | fuel + 1, depth, cs, r, h => by
    unfold items? at h
    split at h
    · cases h
    · rename_i hvalue
      have hj := value?_withinLimit fuel depth hvalue
      split at h
      · rw [Option.map_eq_some_iff] at h
        obtain ⟨_, hmore, rfl⟩ := h
        exact ⟨hj, items?_withinLimit fuel depth hmore⟩
      · cases h
        exact ⟨hj, trivial⟩
      · cases h

theorem fields?_withinLimit : ∀ (fuel depth : Nat) {cs : List Char}
    {r : List (String × Json) × List Char},
    fields? rules fuel depth cs = some r → FieldsWithinLimit rules r.1
  | 0, _, _, _, h => by cases h
  | fuel + 1, depth, cs, r, h => by
    unfold fields? at h
    split at h
    · split at h
      · cases h
      · split at h
        · split at h
          · cases h
          · rename_i hvalue
            have hj := value?_withinLimit fuel depth hvalue
            split at h
            · rw [Option.map_eq_some_iff] at h
              obtain ⟨_, hmore, rfl⟩ := h
              exact ⟨hj, fields?_withinLimit fuel depth hmore⟩
            · cases h
              exact ⟨hj, trivial⟩
            · cases h
        · cases h
    · cases h

end

/-- **Every whole number that the reader gives is one that its rules admit.** -/
theorem readBy?_withinLimit {depth : Nat} {cs : List Char} {j : Json}
    (h : readBy? rules depth cs = some j) : WithinLimit rules j := by
  rw [readBy?] at h
  split at h
  · rename_i hvalue
    split at h
    · cases h
      exact value?_withinLimit _ _ hvalue
    · cases h
  · cases h

end Baseline.Json
