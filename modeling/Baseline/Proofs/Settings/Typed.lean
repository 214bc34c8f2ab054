import Baseline.Proofs.Number.Numeral
import Baseline.Proofs.Text.Lowercase
import Baseline.Settings.Environment

/-!
# Typed values in the environment

A variable holds a text, and three grammars are tried on it in turn: truth words, whole numbers and
doubles.  They overlap, a text of digits is a double too, but what is written for a value is never
taken by an earlier grammar than its own.

* `Spells` : a text spells a word for a truth value, in any letter case.
* `parseSetting_intChars`, `parseSetting_render` : numbers are read back from their texts.
* `parseSetting_typed` : **whole numbers, doubles and truth values survive the environment, and a
  text is taken for itself exactly when all three grammars refuse it.**
-/

set_option autoImplicit false

namespace Baseline

open Numeral

/-! ## Truth words -/

/-- The words for a truth value. -/
def truthWords : Bool → List String
  | true => ["true", "yes", "on"]
  | false => ["false", "no", "off"]

/-- A text spells a word for a truth value, in any letter case. -/
def Spells (b : Bool) (s : String) : Prop :=
  ∃ w ∈ truthWords b, s.toList.map Char.toLower = w.toList

theorem isWordLetter_truthWords (b : Bool) :
    ∀ w ∈ truthWords b, ∀ d ∈ w.toList, Text.IsWordLetter d := by
  have hall : (truthWords b).all (fun w => w.toList.all fun d => decide (Text.IsWordLetter d)) =
      true := by
    cases b <;> decide
  simpa only [List.all_eq_true, decide_eq_true_eq] using hall

/-- The lower case of a text is a truth word exactly when the text spells it. -/
theorem spells_iff {b : Bool} {s : String} : Spells b s ↔ Text.lower s ∈ truthWords b := by
  constructor
  · rintro ⟨w, hw, hspelled⟩
    rwa [(Text.lower_eq_iff s (isWordLetter_truthWords b w hw)).mpr hspelled]
  · exact fun h => ⟨_, h, (Text.lower_eq_iff s (isWordLetter_truthWords b _ h)).mp rfl⟩

theorem parseSetting_of_spells {b : Bool} {s : String} (h : Spells b s) :
    parseSetting s = .bool b := by
  rw [spells_iff] at h
  unfold parseSetting
  dsimp only
  cases b with
  | true =>
    simp only [truthWords, List.mem_cons, List.not_mem_nil, or_false] at h
    exact if_pos h
  | false =>
    have hno : ∀ w ∈ truthWords false, ¬ (w = "true" ∨ w = "yes" ∨ w = "on") := by decide
    rw [if_neg (hno _ h)]
    simp only [truthWords, List.mem_cons, List.not_mem_nil, or_false] at h
    exact if_pos h

theorem parseSetting_of_not_spells {s : String} (h : ∀ b, ¬ Spells b s) : parseSetting s =
    match integer? s.toList with
    | some n => .int n
    | none =>
      match double? s.toList with
      | some x => .float x
      | none => .text s := by
  have htrue := h true
  have hfalse := h false
  rw [spells_iff] at htrue hfalse
  simp only [truthWords, List.mem_cons, List.not_mem_nil, or_false] at htrue hfalse
  unfold parseSetting
  rw [if_neg htrue]
  exact if_neg hfalse

/-- No truth word has a digit. -/
theorem not_spells_of_isDigit {s : String} {c : Char} (hc : isDigit c = true) (hmem : c ∈ s.toList)
    (b : Bool) : ¬ Spells b s := by
  rintro ⟨w, hw, hspelled⟩
  have hin : c ∈ w.toList := by
    rw [← hspelled, ← toLower_of_isDigit hc]
    exact List.mem_map_of_mem hmem
  obtain ⟨hlow, -, -⟩ := isWordLetter_truthWords b w hw c hin
  obtain ⟨-, hhigh⟩ := ascii_of_isDigit hc
  omega

/-! ## Numbers -/

/-- A whole number within the digit limit is read back. -/
theorem parseSetting_intChars {n : Int} (hn : n.natAbs < Nat.pow 10 digitLimit) :
    parseSetting (String.ofList (intChars n)) = .int n := by
  obtain ⟨c, cs, hcs⟩ := List.exists_cons_of_ne_nil (natChars_ne_nil n.natAbs)
  have hc : c ∈ natChars n.natAbs := hcs ▸ List.mem_cons_self
  have hmem : c ∈ intChars n := by
    unfold intChars
    split
    · exact List.mem_cons_of_mem _ hc
    · exact hc
  rw [parseSetting_of_not_spells
    (not_spells_of_isDigit (isDigit_of_mem_natChars hc) (by rwa [String.toList_ofList])),
    String.toList_ofList, integer?_intChars hn]

/-- The text of a double is no truth word. -/
theorem not_spells_render (x : Double) (b : Bool) :
    ¬ Spells b (String.ofList (Value.numberLayout.render x)) := by
  cases x with
  | nan => rw [spells_iff]; revert b; decide +kernel
  | inf neg => rw [spells_iff]; revert b neg; decide +kernel
  | fin neg m =>
    obtain ⟨c, cs, htext, hc, -, -⟩ := render_fin Value.numberLayout neg m
    refine not_spells_of_isDigit hc ?_ b
    rw [String.toList_ofList, htext]
    exact List.mem_append_right _ List.mem_cons_self

/-- Every double is read back, and not as a whole number. -/
theorem parseSetting_render (x : Double) :
    parseSetting (String.ofList (Value.numberLayout.render x)) = .float x := by
  rw [parseSetting_of_not_spells (not_spells_render x), String.toList_ofList, integer?_render,
    double?_render]

/-! ## All texts -/

/-- **Typed values survive the environment.**  Whole numbers of at most `digitLimit` digits, all
doubles and both truth values are read back from their texts as what they are.  Every text stands
for a truth value that it spells, for the whole number or the double that it denotes, or for itself,
and for itself exactly when it does none of these. -/
theorem parseSetting_typed :
    (∀ n : Int, n.natAbs < Nat.pow 10 digitLimit →
        ∃ s, (Value.int n).plain = .ok s ∧ parseSetting s = .int n) ∧
      (∀ x : Double, ∃ s, (Value.float x).shown = .ok s ∧ parseSetting s = .float x) ∧
      (∀ b : Bool, ∃ s, (Value.bool b).plain = .ok s ∧ parseSetting s = .bool b) ∧
      ∀ s, ((∃ b, Spells b s ∧ parseSetting s = .bool b) ∨
          (∃ n, integer? s.toList = some n ∧ parseSetting s = .int n) ∨
          (∃ x, double? s.toList = some x ∧ parseSetting s = .float x) ∨
          parseSetting s = .text s) ∧
        (parseSetting s = .text s ↔
          (∀ b, ¬ Spells b s) ∧ integer? s.toList = none ∧ double? s.toList = none) := by
  refine ⟨fun n hn => ?_, fun x => ⟨_, rfl, parseSetting_render x⟩, fun b => ?_, fun s => ?_⟩
  · have htext : Value.intText n = .ok (String.ofList (intChars n)) := by
      rw [Value.intText, if_neg (Nat.not_le.mpr hn)]
    exact ⟨_, htext, parseSetting_intChars hn⟩
  · refine ⟨_, rfl, parseSetting_of_spells ?_⟩
    rw [spells_iff]
    revert b
    decide +kernel
  · by_cases hspells : ∃ b, Spells b s
    · obtain ⟨b, hb⟩ := hspells
      have hparse := parseSetting_of_spells hb
      refine ⟨Or.inl ⟨b, hb, hparse⟩, ?_⟩
      rw [hparse]
      simp only [reduceCtorEq, false_iff, not_and]
      exact fun hno => absurd hb (hno b)
    · rw [not_exists] at hspells
      rw [parseSetting_of_not_spells hspells]
      cases integer? s.toList with
      | some n => simp
      | none => cases double? s.toList <;> simp [hspells]

/-- The longest whole number, a negative zero, and a word in mixed case. -/
theorem parseSetting_typed_extremes :
    (∃ s, (Value.int (-(Nat.pow 10 digitLimit - 1 : Nat))).plain = .ok s ∧
        parseSetting s = .int (-(Nat.pow 10 digitLimit - 1 : Nat))) ∧
      (∃ s, (Value.float (.fin true .zero)).shown = .ok s ∧
        parseSetting s = .float (.fin true .zero)) ∧
      (∃ s, (Value.bool true).plain = .ok s ∧ parseSetting s = .bool true) ∧
      parseSetting "yEs" ≠ .text "yEs" := by
  obtain ⟨hint, hdouble, hbool, htext⟩ := parseSetting_typed
  have hpos (k : Nat) : 0 < Nat.pow 10 k := Nat.pow_pos (by decide)
  refine ⟨hint _ ?_, hdouble _, hbool true, fun h => ?_⟩
  · rw [Int.natAbs_neg, Int.natAbs_natCast]
    exact Nat.sub_lt (hpos _) Nat.one_pos
  · exact ((htext "yEs").2.mp h).1 true ⟨"yes", by decide, by decide⟩

end Baseline
