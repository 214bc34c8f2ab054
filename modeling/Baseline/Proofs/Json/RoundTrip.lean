import Baseline.Proofs.Json.Number
import Baseline.Proofs.Json.Text
import Mathlib.Data.List.DropRight

/-!
# Documents are read back

* `Json.Readable` : the documents that the reader takes back: finite doubles, whole numbers
  within the digit limit, and no deeper than a bound.
* `Json.value?_renderChars` : such a document, at the head of a text.
* `Json.readBy?_render` : such a document as a whole text, in every standard style.
-/

set_option autoImplicit false

namespace Baseline.Json

open Numeral

variable {rules : Rules}

/-! ## Styles and documents -/

/-- A style whose separators are a comma and a colon, each followed by a gap or by nothing, and whose
numbers keep every digit limit. -/
structure Style.Standard (style : Style) : Prop where
  comma : ∃ gap, style.comma.toList = ',' :: gap ∧ ∀ c ∈ gap, isGap c = true
  colon : ∃ gap, style.colon.toList = ':' :: gap ∧ ∀ c ∈ gap, isGap c = true
  numbers : style.numbers.firstScientific < digitLimit

theorem Style.Standard.admitsLayout {style : Style} (h : style.Standard) :
    AdmitsLayout rules style.numbers := fun _ => h.numbers

mutual

/-- Whether a document is taken back by a reader that allows `depth` levels of nesting. -/
def Readable (rules : Rules) : Json → (depth : Nat) → Prop
  | null, _ => True
  | bool _, _ => True
  | int n, _ => rules.AdmitsInt n
  | float x, _ => x.isFinite = true
  | string _, _ => True
  | array items, depth => 0 < depth ∧ ReadableItems rules items (depth - 1)
  | object fields, depth => 0 < depth ∧ ReadableFields rules fields (depth - 1)

/-- Whether all items of an array are taken back. -/
def ReadableItems (rules : Rules) : List Json → (depth : Nat) → Prop
  | [], _ => True
  | j :: rest, depth => Readable rules j depth ∧ ReadableItems rules rest depth

/-- Whether all fields of an object are taken back. -/
def ReadableFields (rules : Rules) : List (String × Json) → (depth : Nat) → Prop
  | [], _ => True
  | (_, j) :: rest, depth => Readable rules j depth ∧ ReadableFields rules rest depth

end

/-! ## Gaps -/

theorem skipGap_append {gap : List Char} (hgap : ∀ c ∈ gap, isGap c = true) (rest : List Char) :
    skipGap (gap ++ rest) = skipGap rest := List.dropWhile_append_of_pos hgap

theorem skipGap_skipGap (cs : List Char) : skipGap (skipGap cs) = skipGap cs :=
  List.dropWhile_idempotent isGap cs

theorem skipGap_cons {c : Char} (hc : isGap c = false) (rest : List Char) :
    skipGap (c :: rest) = c :: rest := by
  simp [skipGap, hc]

/-- What is read as a document does not begin with a gap or with a closing bracket. -/
theorem head_of_value? {fuel depth : Nat} {c : Char} {t : List Char} {r : Json × List Char}
    (h : value? rules fuel depth (c :: t) = some r) : isGap c = false ∧ c ≠ ']' ∧ c ≠ '\x7d' := by
  by_contra hno
  have hc : c = ' ' ∨ c = '\t' ∨ c = '\n' ∨ c = '\r' ∨ c = ']' ∨ c = '\x7d' := by
    simp only [isGap, Bool.or_eq_false_iff, decide_eq_false_iff_not, ne_eq] at hno
    tauto
  cases fuel with
  | zero => cases h
  | succ fuel =>
    rcases hc with rfl | rfl | rfl | rfl | rfl | rfl <;>
      simp [value?, scalar?, words, List.isPrefixOf, unsignedNumber?, isDigit, isWholePart] at h

theorem skipGap_of_value? {fuel depth : Nat} {cs : List Char} {r : Json × List Char}
    (h : value? rules fuel depth cs = some r) : skipGap cs = cs := by
  cases cs with
  | nil => rfl
  | cons c t => exact skipGap_cons (head_of_value? h).1 t

theorem numberEnd_nil : NumberEnd [] := by
  intro c r h
  cases h

theorem numberEnd_cons {c : Char} (hc : isDigit c = false ∧ c ≠ '.' ∧ c ≠ 'e' ∧ c ≠ 'E')
    (rest : List Char) : NumberEnd (c :: rest) := by
  intro c' r h
  cases h
  exact hc

/-! ## One step of the reader -/

theorem value?_string (fuel depth : Nat) (asciiOnly : Bool) (s : String) (rest : List Char) :
    value? rules (fuel + 1) depth (stringChars asciiOnly s ++ rest) = some (.string s, rest) := by
  obtain ⟨body, hbody, hread⟩ := stringBody?_stringChars asciiOnly s rest
  rw [hbody, value?, hread]
  simp

theorem items?_skipGap (fuel depth : Nat) (cs : List Char) :
    items? rules fuel depth (skipGap cs) = items? rules fuel depth cs := by
  cases fuel with
  | zero => rfl
  | succ fuel => rw [items?, items?, skipGap_skipGap]

theorem fields?_skipGap (fuel depth : Nat) (cs : List Char) :
    fields? rules fuel depth (skipGap cs) = fields? rules fuel depth cs := by
  cases fuel with
  | zero => rfl
  | succ fuel => rw [fields?, fields?, skipGap_skipGap]

theorem items?_close (fuel depth : Nat) (t : List Char) :
    items? rules fuel depth (']' :: t) = none := by
  cases fuel with
  | zero => rfl
  | succ fuel =>
    rw [items?, skipGap_cons (by decide)]
    cases h : value? rules fuel depth (']' :: t) with
    | none => rfl
    | some r => exact absurd rfl (head_of_value? h).2.1

theorem fields?_close (fuel depth : Nat) (t : List Char) :
    fields? rules fuel depth ('\x7d' :: t) = none := by
  cases fuel with
  | zero => rfl
  | succ fuel =>
    rw [fields?, skipGap_cons (by decide)]
    rfl

theorem value?_array {fuel depth : Nat} {cs rest : List Char} {items : List Json}
    (hdepth : 0 < depth) (h : items? rules fuel (depth - 1) cs = some (items, rest)) :
    value? rules (fuel + 1) depth ('[' :: cs) = some (.array items, rest) := by
  rw [← items?_skipGap] at h
  rw [value?]
  split
  · rename_i heq
    rw [heq, items?_close] at h
    cases h
  · rw [if_neg (Nat.ne_of_gt hdepth), h]
    rfl

theorem value?_object {fuel depth : Nat} {cs rest : List Char} {fields : List (String × Json)}
    (hdepth : 0 < depth) (h : fields? rules fuel (depth - 1) cs = some (fields, rest)) :
    value? rules (fuel + 1) depth ('\x7b' :: cs) = some (.object fields, rest) := by
  rw [← fields?_skipGap] at h
  rw [value?]
  split
  · rename_i heq
    rw [heq, fields?_close] at h
    cases h
  · rw [if_neg (Nat.ne_of_gt hdepth), h]
    rfl

theorem items?_gap (fuel depth : Nat) {gap : List Char} (hgap : ∀ c ∈ gap, isGap c = true)
    (cs : List Char) : items? rules fuel depth (gap ++ cs) = items? rules fuel depth cs := by
  rw [← items?_skipGap, skipGap_append hgap, items?_skipGap]

theorem fields?_gap (fuel depth : Nat) {gap : List Char} (hgap : ∀ c ∈ gap, isGap c = true)
    (cs : List Char) : fields? rules fuel depth (gap ++ cs) = fields? rules fuel depth cs := by
  rw [← fields?_skipGap, skipGap_append hgap, fields?_skipGap]

theorem items?_last {fuel depth : Nat} {cs rest : List Char} {j : Json}
    (h : value? rules fuel depth cs = some (j, ']' :: rest)) :
    items? rules (fuel + 1) depth cs = some ([j], rest) := by
  rw [items?, skipGap_of_value? h, h]
  simp only
  rw [skipGap_cons (by decide)]
  simp

theorem items?_cons {fuel depth : Nat} {cs more rest : List Char} {j : Json} {js : List Json}
    (h : value? rules fuel depth cs = some (j, ',' :: more))
    (hmore : items? rules fuel depth more = some (js, rest)) :
    items? rules (fuel + 1) depth cs = some (j :: js, rest) := by
  rw [items?, skipGap_of_value? h, h]
  simp only
  rw [skipGap_cons (by decide)]
  simp only
  rw [hmore]
  rfl

/-- What may follow a field. -/
def moreFields? (rules : Rules) (fuel depth : Nat) (field : String × Json) :
    List Char → Option (List (String × Json) × List Char)
  | ',' :: more => (fields? rules fuel depth more).map fun r => (field :: r.1, r.2)
  | '\x7d' :: rest => some ([field], rest)
  | _ => none

/-- The name of a field, its colon and its value. -/
theorem fields?_field {fuel depth : Nat} (asciiOnly : Bool) (name : String)
    {gap cs after : List Char} {j : Json} (hgap : ∀ c ∈ gap, isGap c = true)
    (h : value? rules fuel depth cs = some (j, after)) (hafter : skipGap after = after) :
    fields? rules (fuel + 1) depth (stringChars asciiOnly name ++ ':' :: (gap ++ cs)) =
      moreFields? rules fuel depth (name, j) after := by
  obtain ⟨body, hbody, hread⟩ := stringBody?_stringChars asciiOnly name (':' :: (gap ++ cs))
  rw [hbody, fields?, skipGap_cons (by decide)]
  simp only
  rw [hread]
  simp only
  rw [skipGap_cons (by decide)]
  simp only
  rw [skipGap_append hgap, skipGap_of_value? h, h]
  simp only
  rw [hafter, String.ofList_toList]
  rfl

/-! ## Whole documents -/

theorem renderItems_cons_cons (style : Style) (j k : Json) (ks : List Json) :
    renderItems style (j :: k :: ks) =
      renderChars style j ++ style.comma.toList ++ renderItems style (k :: ks) := by
  simp [renderItems]

theorem renderFields_cons_cons (style : Style) (name : String) (j : Json) (f : String × Json)
    (fs : List (String × Json)) :
    renderFields style ((name, j) :: f :: fs) =
      stringChars style.asciiOnly name ++ style.colon.toList ++ renderChars style j ++
        style.comma.toList ++ renderFields style (f :: fs) := by
  simp [renderFields]

variable {style : Style}

-- Every step of the reader takes a character or hands over to a part of its document, so two
-- steps for each character are enough.
mutual

/-- **A document at the head of a text is read back.** -/
theorem value?_renderChars (hstyle : style.Standard) : ∀ (j : Json) (fuel depth : Nat)
    (rest : List Char), Readable rules j depth → 2 * (renderChars style j).length + 1 ≤ fuel →
      NumberEnd rest → value? rules fuel depth (renderChars style j ++ rest) = some (j, rest)
  | j, 0, _, _, _, hfuel, _ => absurd hfuel (by omega)
  | .null, fuel + 1, depth, rest, _, _, _ => by
    simp [renderChars, value?, scalar?, words, List.isPrefixOf]
  | .bool true, fuel + 1, depth, rest, _, _, _ => by
    simp [renderChars, value?, scalar?, words, List.isPrefixOf]
  | .bool false, fuel + 1, depth, rest, _, _, _ => by
    simp [renderChars, value?, scalar?, words, List.isPrefixOf]
  | .int n, fuel + 1, depth, rest, hj, _, hrest => value?_intChars fuel depth hj hrest
  | .float (.fin neg m), fuel + 1, depth, rest, _, _, hrest =>
    value?_render fuel depth hstyle.admitsLayout neg m hrest
  | .float .nan, fuel + 1, depth, rest, hj, _, _ => absurd hj (by simp [Readable, Double.isFinite])
  | .float (.inf s), fuel + 1, depth, rest, hj, _, _ =>
    absurd hj (by simp [Readable, Double.isFinite])
  | .string s, fuel + 1, depth, rest, _, _, _ => value?_string fuel depth style.asciiOnly s rest
  | .array [], fuel + 1, depth, rest, hj, _, _ => by
    show value? rules (fuel + 1) depth ('[' :: ']' :: rest) = _
    rw [value?, skipGap_cons (by decide)]
    exact if_neg fun h => Nat.ne_of_gt hj.1 h.1
  | .array (j :: js), fuel + 1, depth, rest, hj, hfuel, _ => by
    simp only [renderChars, List.length_cons, List.length_append, List.length_nil] at hfuel
    have hitems := items?_renderItems hstyle j js fuel (depth - 1) rest hj.2 (by omega)
    rw [renderChars, List.cons_append, List.cons_append, List.append_assoc]
    exact value?_array hj.1 hitems
  | .object [], fuel + 1, depth, rest, hj, _, _ => by
    show value? rules (fuel + 1) depth ('\x7b' :: '\x7d' :: rest) = _
    rw [value?, skipGap_cons (by decide)]
    exact if_neg fun h => Nat.ne_of_gt hj.1 h.1
  | .object ((name, j) :: fs), fuel + 1, depth, rest, hj, hfuel, _ => by
    simp only [renderChars, List.length_cons, List.length_append, List.length_nil] at hfuel
    have hfields := fields?_renderFields hstyle name j fs fuel (depth - 1) rest hj.2 (by omega)
    rw [renderChars, List.cons_append, List.cons_append, List.append_assoc]
    exact value?_object hj.1 hfields

/-- The items of an array are read back. -/
theorem items?_renderItems (hstyle : style.Standard) : ∀ (j : Json) (js : List Json)
    (fuel depth : Nat) (rest : List Char), ReadableItems rules (j :: js) depth →
      2 * (renderItems style (j :: js)).length + 2 ≤ fuel →
      items? rules fuel depth (renderItems style (j :: js) ++ ']' :: rest) = some (j :: js, rest)
  | _, _, 0, _, _, _, hfuel => absurd hfuel (by omega)
  | j, [], fuel + 1, depth, rest, hj, hfuel => by
    rw [renderItems] at hfuel ⊢
    exact items?_last (value?_renderChars hstyle j fuel depth (']' :: rest) hj.1 (by omega)
      (numberEnd_cons (by decide) rest))
  | j, k :: ks, fuel + 1, depth, rest, hj, hfuel => by
    obtain ⟨gap, hcomma, hgap⟩ := hstyle.comma
    rw [renderItems_cons_cons, hcomma] at hfuel ⊢
    simp only [List.length_append, List.length_cons] at hfuel
    simp only [List.append_assoc, List.cons_append]
    have hmore := items?_renderItems hstyle k ks fuel depth rest hj.2 (by omega)
    rw [← items?_gap fuel depth hgap] at hmore
    exact items?_cons (value?_renderChars hstyle j fuel depth _ hj.1 (by omega)
      (numberEnd_cons (by decide) _)) hmore

/-- The fields of an object are read back. -/
theorem fields?_renderFields (hstyle : style.Standard) : ∀ (name : String) (j : Json)
    (fs : List (String × Json)) (fuel depth : Nat) (rest : List Char),
      ReadableFields rules ((name, j) :: fs) depth →
      2 * (renderFields style ((name, j) :: fs)).length + 2 ≤ fuel →
      fields? rules fuel depth (renderFields style ((name, j) :: fs) ++ '\x7d' :: rest) =
        some ((name, j) :: fs, rest)
  | _, _, _, 0, _, _, _, hfuel => absurd hfuel (by omega)
  | name, j, [], fuel + 1, depth, rest, hj, hfuel => by
    obtain ⟨gap, hcolon, hgap⟩ := hstyle.colon
    rw [renderFields, hcolon] at hfuel ⊢
    simp only [List.length_append, List.length_cons] at hfuel
    simp only [List.append_assoc, List.cons_append]
    have hvalue := value?_renderChars hstyle j fuel depth ('\x7d' :: rest) hj.1 (by omega)
      (numberEnd_cons (by decide) rest)
    rw [fields?_field style.asciiOnly name hgap hvalue (skipGap_cons (by decide) rest)]
    rfl
  | name, j, (name', j') :: fs, fuel + 1, depth, rest, hj, hfuel => by
    obtain ⟨gap, hcolon, hgap⟩ := hstyle.colon
    obtain ⟨gap', hcomma, hgap'⟩ := hstyle.comma
    rw [renderFields_cons_cons, hcolon, hcomma] at hfuel ⊢
    simp only [List.length_append, List.length_cons] at hfuel
    simp only [List.append_assoc, List.cons_append]
    have hvalue := value?_renderChars hstyle j fuel depth
      (',' :: (gap' ++ (renderFields style ((name', j') :: fs) ++ '\x7d' :: rest))) hj.1 (by omega)
      (numberEnd_cons (by decide) _)
    have hmore := fields?_renderFields hstyle name' j' fs fuel depth rest hj.2 (by omega)
    rw [fields?_field style.asciiOnly name hgap hvalue (skipGap_cons (by decide) _), moreFields?,
      fields?_gap fuel depth hgap', hmore]
    rfl

end

/-- **A document is read back from its text.** -/
theorem readBy?_render (hstyle : style.Standard) {j : Json} {depth : Nat}
    (hj : Readable rules j depth) : readBy? rules depth (j.render style).toList = some j := by
  have hread := value?_renderChars hstyle j (2 * (renderChars style j).length + 2) depth [] hj
    (by omega) numberEnd_nil
  rw [List.append_nil] at hread
  unfold readBy? render
  rw [String.toList_ofList, skipGap_of_value? hread, hread]
  rfl

end Baseline.Json
