import Baseline.Json.Reader
import Mathlib.Tactic.Ring
import Mathlib.Tactic.Linarith

/-!
# Strings in JSON

Every text is read back from between its quotes, whether the characters beyond ASCII are
escaped or not.

* `Json.stringBody?_stringChar` : one character.
* `Json.stringBody?_stringChars` : a whole text, up to its closing quote.
-/

set_option autoImplicit false

namespace Baseline.Json

/-! ## Escapes by number -/

theorem hexValue?_hexDigit : ∀ d, d < 16 → hexValue? (Text.hexDigit d) = some d := by decide

theorem hexDigits_four (n : Nat) :
    Text.hexDigits 4 n = [Text.hexDigit (n / 16 / 16 / 16 % 16), Text.hexDigit (n / 16 / 16 % 16),
      Text.hexDigit (n / 16 % 16), Text.hexDigit (n % 16)] := rfl

theorem unitValue?_hexDigits {n : Nat} (hn : n < 0x10000) :
    unitValue? (Text.hexDigit (n / 16 / 16 / 16 % 16)) (Text.hexDigit (n / 16 / 16 % 16))
      (Text.hexDigit (n / 16 % 16)) (Text.hexDigit (n % 16)) = some n := by
  have hmod : ∀ k : Nat, k % 16 < 16 := fun k => Nat.mod_lt k (by decide)
  simp only [unitValue?, hexValue?_hexDigit _ (hmod _)]
  congr 1
  omega

/-- Where the surrogates are not. -/
theorem toNat_valid (c : Char) : c.toNat < 0xd800 ∨ 0xe000 ≤ c.toNat ∧ c.toNat < 0x110000 := by
  have h : c.toNat < 0xd800 ∨ 0xdfff < c.toNat ∧ c.toNat < 0x110000 := c.valid
  omega

theorem stringBody?_unitEscape {c : Char} (hc : c.toNat < 0x10000) (rest : List Char) :
    stringBody? (unitEscape c.toNat ++ rest) =
      (stringBody? rest).map fun r => (c :: r.1, r.2) := by
  have hvalid := toNat_valid c
  have hunit := unitValue?_hexDigits hc
  unfold unitEscape
  rw [hexDigits_four]
  simp only [List.cons_append, List.nil_append]
  rw [stringBody?]
  simp only [hunit, Char.ofNat_toNat]
  rw [if_neg (by omega), if_neg (by omega)]

theorem stringBody?_pairEscape {c : Char} (hc : 0x10000 ≤ c.toNat) (rest : List Char) :
    stringBody? (unitEscape (0xd800 + (c.toNat - 0x10000) / 0x400) ++
        unitEscape (0xdc00 + (c.toNat - 0x10000) % 0x400) ++ rest) =
      (stringBody? rest).map fun r => (c :: r.1, r.2) := by
  have hvalid := toNat_valid c
  obtain ⟨high, hhigh⟩ : ∃ n, 0xd800 + (c.toNat - 0x10000) / 0x400 = n := ⟨_, rfl⟩
  obtain ⟨low, hlow⟩ : ∃ n, 0xdc00 + (c.toNat - 0x10000) % 0x400 = n := ⟨_, rfl⟩
  have hsum : 0x10000 + (high - 0xd800) * 0x400 + (low - 0xdc00) = c.toNat := by omega
  have hhighUnit := unitValue?_hexDigits (n := high) (by omega)
  have hlowUnit := unitValue?_hexDigits (n := low) (by omega)
  rw [hhigh, hlow]
  unfold unitEscape
  rw [hexDigits_four, hexDigits_four]
  simp only [List.cons_append, List.nil_append]
  rw [stringBody?]
  simp only [hhighUnit]
  rw [if_neg (by omega), if_pos (by omega)]
  simp only [hlowUnit]
  rw [if_pos (by omega), hsum, Char.ofNat_toNat]

/-! ## Characters and texts -/

theorem stringBody?_shortEscape {e c : Char} (h : escapeValue? e = some c) (rest : List Char) :
    stringBody? ('\\' :: e :: rest) = (stringBody? rest).map fun r => (c :: r.1, r.2) := by
  have hu : e ≠ 'u' := by
    rintro rfl
    cases h
  rw [stringBody?.eq_def]
  split
  · rename_i heq
    cases heq
  · rename_i heq
    cases heq
  · rename_i heq
    cases heq
    exact absurd rfl hu
  · rename_i heq
    cases heq
    rw [h]
  · rename_i hno heq
    cases heq
    exact absurd rfl (hno _ _ rfl)

theorem stringBody?_plain {c : Char} (hquote : c ≠ '"') (hslash : c ≠ '\\') (hc : ¬c.toNat < 0x20)
    (rest : List Char) :
    stringBody? (c :: rest) = (stringBody? rest).map fun r => (c :: r.1, r.2) := by
  rw [stringBody?.eq_def]
  split <;> simp_all

/-- **A character is read back**, escaped or not. -/
theorem stringBody?_stringChar (asciiOnly : Bool) (c : Char) (rest : List Char) :
    stringBody? (stringChar asciiOnly c ++ rest) =
      (stringBody? rest).map fun r => (c :: r.1, r.2) := by
  unfold stringChar
  split_ifs with hquote hslash hn hr ht hb hf hnumber
  · subst hquote
    exact stringBody?_shortEscape rfl rest
  · subst hslash
    exact stringBody?_shortEscape rfl rest
  · subst hn
    exact stringBody?_shortEscape rfl rest
  · subst hr
    exact stringBody?_shortEscape rfl rest
  · subst ht
    exact stringBody?_shortEscape rfl rest
  · subst hb
    exact stringBody?_shortEscape rfl rest
  · subst hf
    exact stringBody?_shortEscape rfl rest
  · unfold pointEscape
    split
    · exact stringBody?_unitEscape (by assumption) rest
    · exact stringBody?_pairEscape (by omega) rest
  · exact stringBody?_plain hquote hslash (fun h => hnumber (.inl h)) rest

theorem stringBody?_flatMap (asciiOnly : Bool) (cs rest : List Char) :
    stringBody? (cs.flatMap (stringChar asciiOnly) ++ '"' :: rest) = some (cs, rest) := by
  induction cs with
  | nil => simp [stringBody?]
  | cons c cs ih => rw [List.flatMap_cons, List.append_assoc, stringBody?_stringChar, ih]; rfl

/-- **A text is read back** up to its closing quote. -/
theorem stringBody?_stringChars (asciiOnly : Bool) (s : String) (rest : List Char) :
    ∃ body, stringChars asciiOnly s ++ rest = '"' :: body ∧
      stringBody? body = some (s.toList, rest) := by
  refine ⟨s.toList.flatMap (stringChar asciiOnly) ++ '"' :: rest, ?_, stringBody?_flatMap _ _ _⟩
  simp [stringChars]

end Baseline.Json
