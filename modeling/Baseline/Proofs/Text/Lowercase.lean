import Baseline.Text.Lowercase
import Mathlib.Data.List.Basic

/-!
# Words in any letter case

The lower case of a text is told character by character.  Of the characters beyond ASCII only the
Kelvin sign has a small ASCII letter alone for its lower case, the letter `k`.  A word without this
letter is therefore the lower case of its ASCII spellings only.

* `Text.IsWord` : words of small ASCII letters other than `k`.
* `Text.lower_eq_iff` : **which texts have such a word as their lower case**.
-/

set_option autoImplicit false

namespace Baseline.Text

/-- Whether a character is a small ASCII letter other than `k`. -/
def IsWordLetter (c : Char) : Prop := 97 ≤ c.toNat ∧ c.toNat ≤ 122 ∧ c ≠ 'k'

instance (c : Char) : Decidable (IsWordLetter c) :=
  inferInstanceAs (Decidable (97 ≤ c.toNat ∧ c.toNat ≤ 122 ∧ c ≠ 'k'))

/-- No run of the table but that of the Kelvin sign leads from beyond ASCII to ASCII. -/
theorem lowerRuns_beyond : ∀ r ∈ lowerRuns, 128 ≤ r.first →
    128 ≤ (r.first : Int) + r.offset ∨ r.first = 0x212a ∧ r.last = 0x212a ∧ r.offset = -8383 := by
  decide +kernel

theorem lowerRuns_within : ∀ r ∈ lowerRuns, r.first < 128 → r.last < 128 := by
  decide +kernel

/-- A number is the code of the character made from it, or there is no such character. -/
theorem toNat_ofNat (n : Nat) : (Char.ofNat n).toNat = n ∨ (Char.ofNat n).toNat = 0 := by
  by_cases h : n.isValidChar
  · exact Or.inl (congrArg Char.toNat (dif_pos h))
  · exact Or.inr (congrArg Char.toNat (dif_neg h))

/-- The lower case of a character beyond ASCII is no letter of a word, or more than one letter. -/
theorem exists_of_lowerChar {c : Char} (h : 128 ≤ c.toNat) :
    ∃ d ∈ lowerChar c, ¬ IsWordLetter d := by
  unfold lowerChar
  rw [if_neg (Nat.not_lt.mpr h)]
  split
  · exact ⟨'\u0307', by simp, by decide⟩
  · split
    · rename_i r hfind
      refine ⟨_, List.mem_singleton_self _, ?_⟩
      have hmem : r ∈ lowerRuns := Array.mem_of_find?_eq_some hfind
      have hcovers : r.covers c.toNat = true :=
        Array.find?_some (p := fun run : CaseRun => run.covers c.toNat) hfind
      simp only [CaseRun.covers, Bool.and_eq_true, decide_eq_true_eq] at hcovers
      obtain ⟨⟨hfirst, hlast⟩, -⟩ := hcovers
      have hbeyond : 128 ≤ r.first := by
        by_contra hlow
        have hend := lowerRuns_within r hmem (by omega)
        omega
      rcases lowerRuns_beyond r hmem hbeyond with himage | ⟨hf, hl, ho⟩
      · rintro ⟨hlow, hhigh, -⟩
        rcases toNat_ofNat (c.toNat + r.offset).toNat with hcode | hcode <;> omega
      · have hcode : (c.toNat + r.offset).toNat = 107 := by omega
        rw [hcode]
        decide
    · refine ⟨c, List.mem_singleton_self c, fun hletter => ?_⟩
      have hhigh := hletter.2.1
      omega

/-- Only ASCII capitals change. -/
theorem toLower_of_not_capital {c : Char} (h : c.toNat < 65 ∨ 90 < c.toNat) : c.toLower = c := by
  refine dif_neg ?_
  rintro ⟨hlow, hhigh⟩
  have hlow' : 65 ≤ c.toNat := hlow
  have hhigh' : c.toNat ≤ 90 := hhigh
  omega

/-- What a character beyond ASCII leaves in the lower case of a text. -/
theorem not_word_of_beyond {c : Char} (h : 128 ≤ c.toNat) (before rest : List Char) :
    ∃ d ∈ lowerFrom before (c :: rest), ¬ IsWordLetter d := by
  rw [lowerFrom]
  split
  · split
    · exact ⟨'ς', by simp, by decide⟩
    · exact ⟨'σ', by simp, by decide⟩
  · obtain ⟨d, hd, hno⟩ := exists_of_lowerChar h
    exact ⟨d, List.mem_append_left _ hd, hno⟩

/-- The lower case of a text is a word without `k` only if the text spells it in ASCII. -/
theorem lowerFrom_eq_iff (before cs : List Char) {w : List Char} (hw : ∀ d ∈ w, IsWordLetter d) :
    lowerFrom before cs = w ↔ cs.map Char.toLower = w := by
  induction cs generalizing before w with
  | nil => rfl
  | cons c rest ih =>
    by_cases h : c.toNat < 128
    · have hsigma : c ≠ 'Σ' := by
        rintro rfl
        exact absurd h (by decide)
      simp only [lowerFrom, if_neg hsigma, lowerChar, if_pos h, List.singleton_append,
        List.map_cons]
      cases w with
      | nil => simp
      | cons d w =>
        rw [List.cons.injEq, List.cons.injEq,
          ih (c :: before) fun e he => hw e (List.mem_cons_of_mem d he)]
    · rw [Nat.not_lt] at h
      constructor
      · rintro rfl
        obtain ⟨d, hd, hno⟩ := not_word_of_beyond h before rest
        exact absurd (hw d hd) hno
      · rintro rfl
        have hletter := hw c.toLower List.mem_cons_self
        rw [toLower_of_not_capital (Or.inr (by omega))] at hletter
        have hhigh := hletter.2.1
        omega

/-- **Which texts have a word as their lower case**: those that spell it in ASCII, in any letter
case. -/
theorem lower_eq_iff (s : String) {w : String} (hw : ∀ d ∈ w.toList, IsWordLetter d) :
    lower s = w ↔ s.toList.map Char.toLower = w.toList := by
  rw [← lowerFrom_eq_iff [] s.toList hw, lower, ← String.toList_inj, String.toList_ofList]

end Baseline.Text
