import Baseline.Json.Basic
import Baseline.Proofs.Number.Written

/-!
# Documents on one line of ASCII

A style that escapes what lies beyond ASCII, and whose separators and number words are plain
themselves, writes every document with printable ASCII characters only.  No line break is one of
them.

* `AsciiLine` : texts of printable ASCII characters.
* `Layout.asciiLine_render` : numbers.
* `Json.asciiLine_stringChars` : texts between their quotes.
* `Json.asciiLine_renderChars` : whole documents.
-/

set_option autoImplicit false

namespace Baseline

open Numeral

/-- Whether all characters lie between the blank and the tilde. -/
def AsciiLine (cs : List Char) : Prop := ∀ c ∈ cs, 0x20 ≤ c.toNat ∧ c.toNat ≤ 0x7e

instance (cs : List Char) : Decidable (AsciiLine cs) :=
  decidable_of_iff (cs.all (fun c => decide (0x20 ≤ c.toNat ∧ c.toNat ≤ 0x7e)) = true)
    (by simp only [List.all_eq_true, decide_eq_true_eq, AsciiLine])

@[simp] theorem asciiLine_nil : AsciiLine [] := fun _ h => absurd h List.not_mem_nil

@[simp] theorem asciiLine_cons {c : Char} {cs : List Char} :
    AsciiLine (c :: cs) ↔ (0x20 ≤ c.toNat ∧ c.toNat ≤ 0x7e) ∧ AsciiLine cs :=
  List.forall_mem_cons

@[simp] theorem asciiLine_append {as bs : List Char} :
    AsciiLine (as ++ bs) ↔ AsciiLine as ∧ AsciiLine bs :=
  List.forall_mem_append

theorem AsciiLine.not_mem_newline {cs : List Char} (h : AsciiLine cs) : '\n' ∉ cs := by
  intro hmem
  exact absurd (h '\n' hmem).1 (by decide)

/-! ## Numbers -/

theorem NumberText.asciiLine {cs : List Char} (h : NumberText cs) : AsciiLine cs := by
  intro c hc
  rcases h c hc with hdigit | rfl | rfl | rfl | rfl
  · simp only [isDigit, Bool.and_eq_true, decide_eq_true_eq] at hdigit
    have hlow : '0'.toNat ≤ c.toNat := hdigit.1
    have hhigh : c.toNat ≤ '9'.toNat := hdigit.2
    exact ⟨le_trans (by decide) hlow, le_trans hhigh (by decide)⟩
  all_goals decide

namespace Layout

/-- A layout whose words are plain. -/
structure Ascii (l : Layout) : Prop where
  nan : AsciiLine l.nan.toList
  infinity : AsciiLine l.infinity.toList
  minusInfinity : AsciiLine l.minusInfinity.toList

theorem asciiLine_render {l : Layout} (hl : l.Ascii) (x : Double) : AsciiLine (l.render x) := by
  cases x with
  | nan => exact hl.nan
  | inf neg =>
    cases neg with
    | false => exact hl.infinity
    | true => exact hl.minusInfinity
  | fin neg m =>
    rw [render, asciiLine_append]
    refine ⟨?_, (l.numberText_magnitudeText _).asciiLine⟩
    cases neg <;> decide

end Layout

namespace Json

/-! ## Texts -/

theorem printable_hexDigit : ∀ d, d < 16 →
    0x20 ≤ (Text.hexDigit d).toNat ∧ (Text.hexDigit d).toNat ≤ 0x7e := by
  decide

theorem asciiLine_hexDigits (count n : Nat) : AsciiLine (Text.hexDigits count n) := by
  induction count generalizing n with
  | zero => exact asciiLine_nil
  | succ count ih =>
    rw [Text.hexDigits, asciiLine_append, asciiLine_cons]
    exact ⟨ih _, printable_hexDigit _ (Nat.mod_lt _ (by decide)), asciiLine_nil⟩

theorem asciiLine_unitEscape (n : Nat) : AsciiLine (unitEscape n) := by
  rw [unitEscape, asciiLine_cons, asciiLine_cons]
  exact ⟨by decide, by decide, asciiLine_hexDigits 4 n⟩

theorem asciiLine_pointEscape (n : Nat) : AsciiLine (pointEscape n) := by
  rw [pointEscape]
  split
  · exact asciiLine_unitEscape n
  · exact asciiLine_append.mpr ⟨asciiLine_unitEscape _, asciiLine_unitEscape _⟩

/-- One character is kept only where it is printable ASCII. -/
theorem asciiLine_stringChar (c : Char) : AsciiLine (stringChar true c) := by
  rw [stringChar]
  iterate 7 (split; · decide)
  split
  · exact asciiLine_pointEscape _
  · rename_i hplain
    simp only [true_and, not_or, Nat.not_lt] at hplain
    exact asciiLine_cons.mpr ⟨hplain, asciiLine_nil⟩

theorem asciiLine_stringChars (s : String) : AsciiLine (stringChars true s) := by
  rw [stringChars, List.cons_append, asciiLine_cons, asciiLine_append]
  refine ⟨by decide, fun c hc => ?_, by decide⟩
  obtain ⟨a, -, hc⟩ := List.mem_flatMap.mp hc
  exact asciiLine_stringChar a c hc

/-! ## Documents -/

/-- A style that escapes what lies beyond ASCII and is plain in its own parts. -/
structure Style.Ascii (style : Style) : Prop where
  escapes : style.asciiOnly = true
  comma : AsciiLine style.comma.toList
  colon : AsciiLine style.colon.toList
  numbers : style.numbers.Ascii

variable {style : Style}

theorem asciiLine_name (hstyle : style.Ascii) (name : String) :
    AsciiLine (stringChars style.asciiOnly name) := by
  rw [hstyle.escapes]
  exact asciiLine_stringChars name

mutual

/-- **A document is written in printable ASCII.** -/
theorem asciiLine_renderChars (hstyle : style.Ascii) : ∀ j, AsciiLine (renderChars style j)
  | .null => by rw [renderChars]; decide
  | .bool true => by rw [renderChars]; decide
  | .bool false => by rw [renderChars]; decide
  | .int n => (numberText_intChars n).asciiLine
  | .float x => Layout.asciiLine_render hstyle.numbers x
  | .string s => asciiLine_name hstyle s
  | .array items => by
    rw [renderChars, List.cons_append, asciiLine_cons, asciiLine_append]
    exact ⟨by decide, asciiLine_renderItems hstyle items, by decide⟩
  | .object fields => by
    rw [renderChars, List.cons_append, asciiLine_cons, asciiLine_append]
    exact ⟨by decide, asciiLine_renderFields hstyle fields, by decide⟩

theorem asciiLine_renderItems (hstyle : style.Ascii) : ∀ js, AsciiLine (renderItems style js)
  | [] => asciiLine_nil
  | [j] => asciiLine_renderChars hstyle j
  | j :: k :: ks => by
    rw [renderItems, asciiLine_append, asciiLine_append]
    · exact ⟨⟨asciiLine_renderChars hstyle j, hstyle.comma⟩, asciiLine_renderItems hstyle (k :: ks)⟩
    · exact List.cons_ne_nil k ks

theorem asciiLine_renderFields (hstyle : style.Ascii) : ∀ fs, AsciiLine (renderFields style fs)
  | [] => asciiLine_nil
  | [(name, j)] => by
    rw [renderFields, asciiLine_append, asciiLine_append]
    exact ⟨⟨asciiLine_name hstyle name, hstyle.colon⟩, asciiLine_renderChars hstyle j⟩
  | (name, j) :: f :: fs => by
    rw [renderFields, asciiLine_append, asciiLine_append, asciiLine_append, asciiLine_append]
    · exact ⟨⟨⟨⟨asciiLine_name hstyle name, hstyle.colon⟩, asciiLine_renderChars hstyle j⟩,
        hstyle.comma⟩, asciiLine_renderFields hstyle (f :: fs)⟩
    · exact List.cons_ne_nil f fs

end

end Json

end Baseline
