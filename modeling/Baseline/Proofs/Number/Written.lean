import Baseline.Proofs.Number.Digits

/-!
# The characters of written numbers

A number is written with ASCII digits and four other characters: the point, the mark of an exponent
and the two signs.  The words of a layout for NaN and the infinities are a matter of their own.

* `NumberText` : texts of these characters.
* `numberText_intChars` : whole numbers.
* `Layout.numberText_magnitudeText` : decimals, under every layout.
-/

set_option autoImplicit false

namespace Baseline

open Numeral

/-- Whether all characters are digits, points, marks of exponents or signs. -/
def NumberText (cs : List Char) : Prop :=
  ∀ c ∈ cs, isDigit c = true ∨ c = '.' ∨ c = 'e' ∨ c = '+' ∨ c = '-'

instance (cs : List Char) : Decidable (NumberText cs) :=
  decidable_of_iff (cs.all (fun c =>
      decide (isDigit c = true ∨ c = '.' ∨ c = 'e' ∨ c = '+' ∨ c = '-')) = true)
    (by simp only [List.all_eq_true, decide_eq_true_eq, NumberText])

@[simp] theorem numberText_cons {c : Char} {cs : List Char} : NumberText (c :: cs) ↔
    (isDigit c = true ∨ c = '.' ∨ c = 'e' ∨ c = '+' ∨ c = '-') ∧ NumberText cs :=
  List.forall_mem_cons

@[simp] theorem numberText_append {as bs : List Char} :
    NumberText (as ++ bs) ↔ NumberText as ∧ NumberText bs :=
  List.forall_mem_append

theorem numberText_of_isDigit {cs : List Char} (h : ∀ c ∈ cs, isDigit c = true) : NumberText cs :=
  fun c hc => Or.inl (h c hc)

theorem numberText_natChars (n : Nat) : NumberText (natChars n) :=
  numberText_of_isDigit fun _ hc => isDigit_of_mem_natChars hc

theorem numberText_paddedLeft (width n : Nat) : NumberText (paddedLeft '0' width (natChars n)) :=
  numberText_of_isDigit fun _ hc => isDigit_of_mem_paddedLeft hc

theorem numberText_intChars (n : Int) : NumberText (intChars n) := by
  rw [intChars]
  split
  · exact numberText_cons.mpr ⟨by decide, numberText_natChars _⟩
  · exact numberText_natChars _

theorem numberText_fixedText (digits places : Nat) : NumberText (fixedText digits places) := by
  have hall := numberText_paddedLeft (places + 1) digits
  rw [fixedText]
  split
  · exact hall
  · rw [numberText_append, numberText_cons]
    exact ⟨fun c hc => hall c (List.mem_of_mem_take hc), by decide,
      fun c hc => hall c (List.mem_of_mem_drop hc)⟩

theorem numberText_exponentChars (least : Nat) (e : Int) : NumberText (exponentChars least e) := by
  rw [exponentChars, numberText_cons]
  refine ⟨?_, numberText_paddedLeft _ _⟩
  split <;> decide

theorem numberText_scientificText (least n : Nat) (leading : Int) :
    NumberText (scientificText 'e' least (natChars n) leading) := by
  have hdigits := numberText_natChars n
  have hend := numberText_exponentChars least leading
  unfold scientificText
  rw [numberText_append, numberText_cons]
  refine ⟨?_, by decide, hend⟩
  -- one digit stays alone, of several the first is followed by the point
  match natChars n, hdigits with
  | [], _ => decide
  | [c], hc => exact hc
  | c :: d :: ds, hc =>
    rw [numberText_cons] at hc
    exact numberText_cons.mpr ⟨hc.1, numberText_cons.mpr ⟨by decide, hc.2⟩⟩

namespace Layout

theorem numberText_positional (d : Scientific) : NumberText (positional d) := by
  rw [positional]
  split
  · exact numberText_append.mpr ⟨numberText_natChars _, by decide⟩
  · exact numberText_fixedText _ _

theorem numberText_magnitudeText (l : Layout) (d : Scientific) :
    NumberText (l.magnitudeText d) := by
  rw [magnitudeText]
  split
  · decide
  · split
    · exact numberText_positional d
    · exact numberText_scientificText _ _ _

end Layout

end Baseline
