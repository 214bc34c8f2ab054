import Baseline.Proofs.Json.RoundTrip
import Baseline.Proofs.Number.Written
import Baseline.Proofs.Text.Lowercase
import Baseline.Value

/-!
# Numerals in free text

What is written for a number is a numeral in free text: it has no blanks around it and no digits of
other scripts or underscores in it, so nothing is dropped or joined before it is read.

* `Numeral.integer?_intChars` : whole numbers within the digit limit are read back.
* `Numeral.double?_render` : every double is read back, NaN and the infinities too.
* `Numeral.integer?_render` : and none of them is taken for a whole number.
-/

set_option autoImplicit false

namespace Baseline.Numeral

/-! ## Nothing to drop, nothing to join -/

theorem ascii_of_isDigit {c : Char} (h : isDigit c = true) : 48 ≤ c.toNat ∧ c.toNat ≤ 57 := by
  simp only [isDigit, Bool.and_eq_true, decide_eq_true_eq] at h
  exact h

theorem toAsciiDigit_of_ascii {c : Char} (h : c.toNat < 128) : Text.toAsciiDigit c = c := if_pos h

/-- A character of a number stands for itself, is no blank and no underscore. -/
theorem plain_of_numberText {cs : List Char} (h : NumberText cs) {c : Char} (hc : c ∈ cs) :
    Text.toAsciiDigit c = c ∧ Text.isBlank c = false ∧ c ≠ '_' := by
  rcases h c hc with hdigit | rfl | rfl | rfl | rfl
  · obtain ⟨hlow, hhigh⟩ := ascii_of_isDigit hdigit
    refine ⟨toAsciiDigit_of_ascii (by omega), ?_, ?_⟩
    · unfold Text.isBlank
      grind
    · rintro rfl
      exact absurd hdigit (by decide)
  all_goals decide

theorem trim_of_noBlank {cs : List Char} (h : ∀ c ∈ cs, Text.isBlank c = false) :
    Text.trim cs = cs := by
  have hfront : ∀ {ds : List Char}, (∀ c ∈ ds, Text.isBlank c = false) →
      ds.dropWhile Text.isBlank = ds := by
    intro ds hds
    cases ds with
    | nil => rfl
    | cons c rest => rw [List.dropWhile_cons, hds c List.mem_cons_self, if_neg Bool.false_ne_true]
  rw [Text.trim, hfront h, hfront fun c hc => h c (List.mem_reverse.mp hc), List.reverse_reverse]

theorem normalize_of_numberText {cs : List Char} (h : NumberText cs) : normalize cs = cs := by
  have hmap : cs.map Text.toAsciiDigit = cs := by
    rw [List.map_congr_left fun c hc => (plain_of_numberText h hc).1, List.map_id']
  rw [normalize, hmap, trim_of_noBlank fun c hc => (plain_of_numberText h hc).2.1]

theorem joinGroups?_of_noUnderscore {cs : List Char} (h : ∀ c ∈ cs, c ≠ '_') (after : Bool) :
    joinGroups? after cs = some cs := by
  induction cs generalizing after with
  | nil => rfl
  | cons c rest ih =>
    have hc := h c List.mem_cons_self
    rw [joinGroups?.eq_3 after c rest fun _ _ heq => absurd heq hc, if_neg hc,
      ih fun d hd => h d (List.mem_cons_of_mem c hd)]
    rfl

theorem joinGroups?_of_numberText {cs : List Char} (h : NumberText cs) (after : Bool) :
    joinGroups? after cs = some cs :=
  joinGroups?_of_noUnderscore (fun _ hc => (plain_of_numberText h hc).2.2) after

theorem splitSign_of_isDigit {c : Char} (h : isDigit c = true) (cs : List Char) :
    splitSign (c :: cs) = (false, c :: cs) := by
  unfold splitSign
  split
  · rename_i heq
    cases heq
    exact absurd h (by decide)
  · rename_i heq
    cases heq
    exact absurd h (by decide)
  · rfl

/-- A sign is split off again. -/
theorem splitSign_minus (neg : Bool) {c : Char} (h : isDigit c = true) (cs : List Char) :
    splitSign (Json.minus neg ++ c :: cs) = (neg, c :: cs) := by
  cases neg with
  | false => exact splitSign_of_isDigit h cs
  | true => rfl

theorem numberText_minus (neg : Bool) {cs : List Char} (h : NumberText cs) :
    NumberText (Json.minus neg ++ cs) := by
  refine numberText_append.mpr ⟨?_, h⟩
  cases neg <;> decide

/-! ## Whole numbers -/

/-- **A whole number within the digit limit is read back.** -/
theorem integer?_intChars {n : Int} (hn : n.natAbs < Nat.pow 10 digitLimit) :
    integer? (intChars n) = some n := by
  obtain ⟨c, cs, hcs⟩ := List.exists_cons_of_ne_nil (natChars_ne_nil n.natAbs)
  have hdigits : ∀ d ∈ natChars n.natAbs, isDigit d = true := fun _ => isDigit_of_mem_natChars
  have hlen : (natChars n.natAbs).length ≤ digitLimit := (length_natChars_le (by decide)).mpr hn
  have hchars : intChars n = Json.minus (decide (n < 0)) ++ natChars n.natAbs := by
    unfold intChars Json.minus
    by_cases h : n < 0 <;> simp [h]
  have hsplit : splitSign (normalize (intChars n)) = (decide (n < 0), natChars n.natAbs) := by
    rw [normalize_of_numberText (numberText_intChars n), hchars, hcs,
      splitSign_minus _ (hdigits c (hcs ▸ List.mem_cons_self))]
  have hread : integerDigits? (intChars n) = some (decide (n < 0), natChars n.natAbs) := by
    rw [integerDigits?, hsplit]
    dsimp only
    rw [joinGroups?_of_numberText (numberText_natChars _)]
    exact if_pos ⟨natChars_ne_nil _, List.all_eq_true.mpr hdigits⟩
  rw [integer?, hread]
  dsimp only
  rw [if_pos hlen, natOfDigits_natChars]
  simp only [signed, decide_eq_true_eq, Option.some_inj]
  split <;> omega

/-! ## Doubles -/

theorem all_of_dropWhile {ds : List Char} (h : ds.dropWhile isDigit = []) :
    ds.all isDigit = true ∧ ds.takeWhile isDigit = ds := by
  have hsplit := List.takeWhile_append_dropWhile (p := isDigit) (l := ds)
  rw [h, List.append_nil] at hsplit
  exact ⟨hsplit ▸ List.all_takeWhile, hsplit⟩

/-- An exponent that takes up the rest of a text. -/
theorem exponent?_of_mark {mark : Char} (hmark : mark = 'e' ∨ mark = 'E') {r : List Char}
    (hend : (splitSign r).2.dropWhile isDigit = [])
    (hne : (splitSign r).2.takeWhile isDigit ≠ []) :
    exponent? (mark :: r) = some (signed (splitSign r).1
      (natOfDigits ((splitSign r).2.takeWhile isDigit))) := by
  obtain ⟨hall, htake⟩ := all_of_dropWhile hend
  rw [htake] at hne ⊢
  exact if_pos ⟨hmark, hne, hall⟩

/-- What the strict reader takes for a double, up to the end of a text, is a numeral for it. -/
theorem unsigned?_of_unsignedNumber? {neg : Bool} {cs : List Char} {x : Double}
    (h : Json.unsignedNumber? .usual neg cs = some (.float x, [])) :
    (unsigned? neg cs).map (fun d => Double.ofDecimal d.neg d.digits d.exp) = some x := by
  unfold Json.unsignedNumber? at h
  dsimp only at h
  split at h
  · cases h
  rename_i hwhole
  have hne : cs.takeWhile isDigit ≠ [] := by
    intro hnil
    rw [hnil] at hwhole
    exact hwhole rfl
  unfold unsigned?
  dsimp only
  generalize cs.takeWhile isDigit = whole at h hne
  generalize cs.dropWhile isDigit = rest at h
  -- the readers split the rest at the same places: at the point, and at the mark of an exponent
  match rest with
  | [] => simp at h
  | c :: r =>
    by_cases hpoint : c = '.'
    · subst hpoint
      simp only [] at h ⊢
      rw [if_neg fun hnil => hne hnil.1]
      generalize r.takeWhile isDigit = fs at h ⊢
      cases hafter : r.dropWhile isDigit with
      | nil =>
        simp only [hafter, Option.isSome_some, Option.getD_some, Bool.true_and, Option.getD_none,
          List.isEmpty_cons, Json.admits_usual, Bool.not_true, Bool.or_false, List.isEmpty_iff,
          Option.ite_none_left_eq_some, Option.some.injEq, Prod.mk.injEq, Json.float.injEq,
          and_true] at h
        rw [exponent?, ← h.2, Json.signed_noExponent]
        rfl
      | cons mark more =>
        by_cases hmark : mark = 'e' ∨ mark = 'E'
        · simp only [hafter, Option.isSome_some, Option.getD_some, Bool.true_and, hmark, if_true,
            Json.admits_usual, Bool.not_true, Bool.or_false, Bool.or_eq_true, List.isEmpty_iff,
            Option.ite_none_left_eq_some, not_or,
            Option.some.injEq, Prod.mk.injEq, Json.float.injEq] at h
          obtain ⟨⟨-, hds⟩, hx, hend⟩ := h
          rw [exponent?_of_mark hmark hend hds]
          exact congrArg some hx
        · simp [hafter, hmark] at h
    · by_cases hmark : c = 'e' ∨ c = 'E'
      · simp only [List.cons.injEq, hpoint, false_and, imp_self, implies_true, hmark, if_true,
          Option.isSome_none, Option.getD_none, List.isEmpty_nil, Bool.and_true, Option.getD_some,
          Json.admits_usual, Bool.not_true, Bool.or_false, Bool.false_or, List.isEmpty_iff,
          List.append_nil, List.length_nil, Nat.cast_zero,
          sub_zero, Option.ite_none_left_eq_some, Option.some.injEq, Prod.mk.injEq,
          Json.float.injEq] at h
        obtain ⟨hds, hx, hend⟩ := h
        have hexp := exponent?_of_mark hmark hend hds
        simp [hpoint, hne, hexp, hx]
      · simp [hpoint, hmark] at h

/-- What the strict reader takes for a double is not made of digits alone. -/
theorem not_all_of_unsignedNumber? {neg : Bool} {cs : List Char} {x : Double}
    (h : Json.unsignedNumber? .usual neg cs = some (.float x, [])) : cs.all isDigit = false := by
  rw [← Bool.not_eq_true, List.all_eq_true]
  intro hall
  have htake := List.takeWhile_eq_self_iff.mpr hall
  have hdrop := List.dropWhile_eq_nil_iff.mpr hall
  unfold Json.unsignedNumber? at h
  rw [htake, hdrop] at h
  simp at h

theorem toLower_of_isDigit {c : Char} (h : isDigit c = true) : c.toLower = c := by
  obtain ⟨-, hhigh⟩ := ascii_of_isDigit h
  exact Text.toLower_of_not_capital (Or.inl (by omega))

/-- No word for infinity or NaN begins with a digit. -/
theorem plainDouble?_of_isDigit (neg : Bool) {c : Char} (h : isDigit c = true) (cs : List Char) :
    plainDouble? (Json.minus neg ++ c :: cs) =
      (unsigned? neg (c :: cs)).map fun d => Double.ofDecimal d.neg d.digits d.exp := by
  have hword {w : String} {d : Char} {ds : List Char} (hw : w.toList = d :: ds)
      (hd : isDigit d = false) : String.ofList ((c :: cs).map Char.toLower) ≠ w := by
    rintro rfl
    rw [String.toList_ofList, List.map_cons, List.cons.injEq, toLower_of_isDigit h] at hw
    rw [← hw.1, h] at hd
    cases hd
  unfold plainDouble?
  rw [splitSign_minus neg h]
  dsimp only
  split
  · rename_i heq
    exact absurd heq (hword rfl (by decide))
  · rename_i heq
    exact absurd heq (hword rfl (by decide))
  · rename_i heq
    exact absurd heq (hword rfl (by decide))
  · rfl

variable {neg : Bool} {m : Magnitude}

/-- A finite double is written as a sign and a text that begins with a digit, is read strictly, and
has only the characters of numbers. -/
theorem render_fin (l : Layout) (neg : Bool) (m : Magnitude) : ∃ c cs,
    l.render (.fin neg m) = Json.minus neg ++ c :: cs ∧ isDigit c = true ∧
      NumberText (c :: cs) ∧
      Json.unsignedNumber? .usual neg (c :: cs) = some (.float (.fin neg m), []) := by
  have hl : Json.AdmitsLayout .usual l := nofun
  have hread := Json.unsignedNumber?_magnitudeText hl neg m.shortest Json.numberEnd_nil
  rw [List.append_nil, m.ofDecimal_shortest neg] at hread
  obtain ⟨c, cs, hcs, hc⟩ := Json.exists_digit_of_unsignedNumber? hread
  exact ⟨c, cs, hcs ▸ rfl, hc, hcs ▸ l.numberText_magnitudeText _, hcs ▸ hread⟩

/-- **Every double is read back from its text**, NaN and the infinities too. -/
theorem double?_render (x : Double) : double? (Value.numberLayout.render x) = some x := by
  cases x with
  | nan => decide +kernel
  | inf neg => cases neg <;> decide +kernel
  | fin neg m =>
    obtain ⟨c, cs, htext, hc, hchars, hread⟩ := render_fin Value.numberLayout neg m
    have hsigned := numberText_minus neg hchars
    rw [htext, double?, normalize_of_numberText hsigned, joinGroups?_of_numberText hsigned,
      Option.bind_some, plainDouble?_of_isDigit neg hc, unsigned?_of_unsignedNumber? hread]

/-- The text of a double is no whole number. -/
theorem integer?_render (x : Double) : integer? (Value.numberLayout.render x) = none := by
  cases x with
  | nan => decide +kernel
  | inf neg => cases neg <;> decide +kernel
  | fin neg m =>
    obtain ⟨c, cs, htext, hc, hchars, hread⟩ := render_fin Value.numberLayout neg m
    have hnone : integerDigits? (Value.numberLayout.render (.fin neg m)) = none := by
      rw [integerDigits?, htext, normalize_of_numberText (numberText_minus neg hchars),
        splitSign_minus neg hc]
      dsimp only
      rw [joinGroups?_of_numberText hchars]
      dsimp only
      rw [not_all_of_unsignedNumber? hread]
      exact if_neg fun h => Bool.false_ne_true h.2
    rw [integer?, hnone]

end Baseline.Numeral
