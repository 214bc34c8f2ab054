import Baseline.Json.Reader
import Baseline.Proofs.Number.Digits
import Baseline.Proofs.Number.Shortest

/-!
# Numbers in JSON

What a layout writes, the JSON reader reads back.

* `Json.value?_intChars` : whole numbers within the digit limit.
* `Json.value?_render` : finite doubles, under every layout that keeps the digit limit.

The text that follows a number must not continue it: `NumberEnd`.
-/

set_option autoImplicit false

namespace Baseline.Json

open Numeral

variable {rules : Rules}

/-! ## Where a number ends -/

/-- A text that does not continue a number. -/
def NumberEnd (rest : List Char) : Prop :=
  ∀ c r, rest = c :: r → isDigit c = false ∧ c ≠ '.' ∧ c ≠ 'e' ∧ c ≠ 'E'

theorem takeWhile_isDigit_append {ds rest : List Char} (hds : ∀ c ∈ ds, isDigit c = true)
    (hrest : ∀ c r, rest = c :: r → isDigit c = false) :
    (ds ++ rest).takeWhile isDigit = ds ∧ (ds ++ rest).dropWhile isDigit = rest := by
  rw [List.takeWhile_append_of_pos hds, List.dropWhile_append_of_pos hds]
  cases rest with
  | nil => simp
  | cons c r => simp [hrest c r rfl]

/-- Digits followed by a character that is none. -/
theorem takeWhile_isDigit_cons {ds r : List Char} {c : Char} (hds : ∀ c ∈ ds, isDigit c = true)
    (hc : isDigit c = false) :
    (ds ++ c :: r).takeWhile isDigit = ds ∧ (ds ++ c :: r).dropWhile isDigit = c :: r :=
  takeWhile_isDigit_append hds fun c' r' h => by cases h; exact hc

/-! ## The three shapes of a number -/

theorem unsignedNumber?_whole (neg : Bool) {ds rest : List Char}
    (hds : ∀ c ∈ ds, isDigit c = true) (hwhole : isWholePart ds = true)
    (hfits : rules.admits neg false ds = true) (hrest : NumberEnd rest) :
    unsignedNumber? rules neg (ds ++ rest) =
      some (.int (signed neg (natOfDigits ds)), rest) := by
  obtain ⟨ht, hd⟩ := takeWhile_isDigit_append hds fun c r h => (hrest c r h).1
  unfold unsignedNumber?
  rw [ht, hd]
  cases rest with
  | nil => simp [hwhole, hfits]
  | cons c r =>
    obtain ⟨-, hpoint, he, hE⟩ := hrest c r rfl
    simp [hwhole, hfits, hpoint, he, hE]

/-- Without an exponent part the exponent is zero. -/
theorem signed_noExponent : signed false (natOfDigits ['0']) = 0 := by decide

theorem unsignedNumber?_fraction (neg : Bool) {ds fs rest : List Char}
    (hds : ∀ c ∈ ds, isDigit c = true) (hwhole : isWholePart ds = true)
    (hfits : rules.admits neg true ds = true) (hfs : ∀ c ∈ fs, isDigit c = true) (hne : fs ≠ [])
    (hrest : NumberEnd rest) :
    unsignedNumber? rules neg (ds ++ '.' :: (fs ++ rest)) =
      some (.float (Double.ofDecimal neg (natOfDigits (ds ++ fs)) (-(fs.length : Int))), rest) := by
  obtain ⟨ht, hd⟩ :=
    takeWhile_isDigit_cons (r := fs ++ rest) hds (show isDigit '.' = false by decide)
  obtain ⟨hft, hfd⟩ := takeWhile_isDigit_append hfs fun c r h => (hrest c r h).1
  unfold unsignedNumber?
  rw [ht, hd]
  simp only [hft, hfd, hwhole]
  cases rest with
  | nil => simp [hne, hfits, signed_noExponent]
  | cons c r =>
    obtain ⟨-, -, he, hE⟩ := hrest c r rfl
    simp [hne, hfits, he, hE, signed_noExponent]

/-- The sign of an exponent. -/
def signChar (neg : Bool) : Char := if neg then '-' else '+'

theorem splitSign_signChar (neg : Bool) (cs : List Char) :
    splitSign (signChar neg :: cs) = (neg, cs) := by
  cases neg <;> rfl

theorem unsignedNumber?_exponent (neg expNeg : Bool) {ds es rest : List Char}
    (hds : ∀ c ∈ ds, isDigit c = true) (hwhole : isWholePart ds = true)
    (hfits : rules.admits neg true ds = true) (hes : ∀ c ∈ es, isDigit c = true) (hne : es ≠ [])
    (hrest : NumberEnd rest) :
    unsignedNumber? rules neg (ds ++ 'e' :: signChar expNeg :: (es ++ rest)) =
      some (.float (Double.ofDecimal neg (natOfDigits ds) (signed expNeg (natOfDigits es))), rest) := by
  obtain ⟨ht, hd⟩ := takeWhile_isDigit_cons (r := signChar expNeg :: (es ++ rest)) hds
    (show isDigit 'e' = false by decide)
  obtain ⟨het, hed⟩ := takeWhile_isDigit_append hes fun c r h => (hrest c r h).1
  unfold unsignedNumber?
  rw [ht, hd]
  simp [hwhole, hfits, splitSign_signChar, het, hed, hne]

theorem unsignedNumber?_fraction_exponent (neg expNeg : Bool) {ds fs es rest : List Char}
    (hds : ∀ c ∈ ds, isDigit c = true) (hwhole : isWholePart ds = true)
    (hfits : rules.admits neg true ds = true) (hfs : ∀ c ∈ fs, isDigit c = true) (hfne : fs ≠ [])
    (hes : ∀ c ∈ es, isDigit c = true) (hne : es ≠ []) (hrest : NumberEnd rest) :
    unsignedNumber? rules neg (ds ++ '.' :: (fs ++ 'e' :: signChar expNeg :: (es ++ rest))) =
      some (.float (Double.ofDecimal neg (natOfDigits (ds ++ fs))
        (signed expNeg (natOfDigits es) - fs.length)), rest) := by
  obtain ⟨ht, hd⟩ := takeWhile_isDigit_cons
    (r := fs ++ 'e' :: signChar expNeg :: (es ++ rest)) hds (show isDigit '.' = false by decide)
  obtain ⟨hft, hfd⟩ := takeWhile_isDigit_cons (r := signChar expNeg :: (es ++ rest)) hfs
    (show isDigit 'e' = false by decide)
  obtain ⟨het, hed⟩ := takeWhile_isDigit_append hes fun c r h => (hrest c r h).1
  unfold unsignedNumber?
  rw [ht, hd]
  simp [hft, hfd, hwhole, hfits, splitSign_signChar, het, hed, hfne, hne]

/-! ## What a layout writes -/

theorem isWholePart_natChars (n : Nat) : isWholePart (natChars n) = true := by
  rcases Nat.eq_zero_or_pos n with rfl | hn
  · rfl
  · obtain ⟨c, ds, hc, hne⟩ := exists_natChars_eq_cons hn
    rw [hc]
    cases ds <;> simp [isWholePart, hne]

/-- What stands before the point of a fixed-point text is a whole part: one zero, or digits that
do not begin with one. -/
theorem isWholePart_take_paddedLeft {digits : Nat} (hd : 0 < digits) (places : Nat) :
    isWholePart ((paddedLeft '0' (places + 1) (natChars digits)).take
      ((paddedLeft '0' (places + 1) (natChars digits)).length - places)) = true := by
  obtain ⟨c, cs, hc, hne⟩ := exists_natChars_eq_cons hd
  rw [length_paddedLeft]
  by_cases hpad : (natChars digits).length ≤ places
  · -- the padding reaches one place before the point
    have hzeros : places + 1 - (natChars digits).length =
        places - (natChars digits).length + 1 := by omega
    rw [show max (places + 1) (natChars digits).length - places = 1 by omega, paddedLeft, hzeros,
      List.replicate_succ]
    rfl
  · obtain ⟨k, hk⟩ : ∃ k, max (places + 1) (natChars digits).length - places = k + 1 :=
      ⟨(natChars digits).length - places - 1, by omega⟩
    have hnone : paddedLeft '0' (places + 1) (natChars digits) = natChars digits := by
      rw [paddedLeft, show places + 1 - (natChars digits).length = 0 by omega]
      rfl
    rw [hk, hnone, hc, List.take_succ_cons]
    cases cs.take k <;> simp [isWholePart, hne]

/-- A fixed-point text: a whole part, and as many digits behind the point as asked for. -/
theorem fixedText_spec {digits places : Nat} (hd : 0 < digits) (hp : 0 < places) :
    ∃ ds fs, fixedText digits places = ds ++ '.' :: fs ∧ (∀ c ∈ ds, isDigit c = true) ∧
      (∀ c ∈ fs, isDigit c = true) ∧ isWholePart ds = true ∧ fs.length = places ∧
      natOfDigits (ds ++ fs) = digits ∧ ds.length = max 1 ((natChars digits).length - places) := by
  have hwhole := isWholePart_take_paddedLeft hd places
  have hlength := length_paddedLeft '0' (places + 1) (natChars digits)
  have hvalue := natOfDigits_paddedLeft (places + 1) digits
  have hdigit : ∀ c ∈ paddedLeft '0' (places + 1) (natChars digits), isDigit c = true :=
    fun c => isDigit_of_mem_paddedLeft
  rw [fixedText, if_neg (Nat.ne_of_gt hp)]
  generalize paddedLeft '0' (places + 1) (natChars digits) = cs at hwhole hlength hvalue hdigit ⊢
  refine ⟨cs.take (cs.length - places), cs.drop (cs.length - places), rfl, ?_, ?_, hwhole, ?_, ?_,
    ?_⟩
  · exact fun c hc => hdigit c (List.mem_of_mem_take hc)
  · exact fun c hc => hdigit c (List.mem_of_mem_drop hc)
  · rw [List.length_drop]
    omega
  · rw [List.take_append_drop, hvalue]
  · rw [List.length_take]
    omega

/-- The exponent of a scientific text: its sign, and digits that denote it. -/
theorem exponentChars_spec (least : Nat) (e : Int) :
    ∃ es, exponentChars least e = signChar (decide (e < 0)) :: es ∧
      (∀ c ∈ es, isDigit c = true) ∧ es ≠ [] ∧ signed (decide (e < 0)) (natOfDigits es) = e := by
  refine ⟨paddedLeft '0' least (natChars e.natAbs), ?_, ?_, ?_, ?_⟩
  · simp [exponentChars, signChar]
  · exact fun c hc => isDigit_of_mem_paddedLeft hc
  · simp [paddedLeft, natChars_ne_nil]
  · rw [natOfDigits_paddedLeft]
    simp only [signed, decide_eq_true_eq]
    split <;> omega

/-- Whether the whole parts that a layout writes keep the digit limit of some rules. -/
def AdmitsLayout (rules : Rules) (l : Layout) : Prop :=
  rules.boundsAll = true → l.firstScientific < digitLimit

theorem admits_of_length {whole : List Char}
    (h : rules.boundsAll = true → whole.length < digitLimit) (neg : Bool) :
    rules.admits neg true whole = true := by
  unfold Rules.admits
  split
  · rename_i hbounds
    have hlen := h hbounds
    unfold signedWithinLimit
    cases neg <;> simp <;> omega
  · rfl

/-- By the usual rules a number with a fraction or an exponent has no limit. -/
@[simp]
theorem admits_usual (neg : Bool) (whole : List Char) : Rules.usual.admits neg true whole = true :=
  rfl

/-- One digit keeps every limit. -/
theorem admits_singleton (rules : Rules) (neg : Bool) (c : Char) :
    rules.admits neg true [c] = true := by
  have hlen : rules.boundsAll = true → [c].length < digitLimit :=
    fun _ => show 1 < digitLimit by decide
  exact admits_of_length hlen neg

theorem length_natChars_mul_pow_le {n : Nat} (k : Nat) :
    (natChars (n * Nat.pow 10 k)).length ≤ (natChars n).length + k := by
  have hpos : 0 < (natChars n).length := List.length_pos_iff.mpr (natChars_ne_nil n)
  rw [length_natChars_le (by omega)]
  have hlt : n < Nat.pow 10 (natChars n).length := (length_natChars_le hpos).mp (Nat.le_refl _)
  rw [show Nat.pow 10 ((natChars n).length + k) = Nat.pow 10 (natChars n).length * Nat.pow 10 k from
    Nat.pow_add 10 _ k]
  exact Nat.mul_lt_mul_of_pos_right hlt (Nat.pow_pos (by decide))

theorem isDigit_of_mem_zero : ∀ c ∈ ['0'], isDigit c = true := by
  intro c hc
  rw [List.mem_singleton.mp hc]
  rfl

theorem unsignedNumber?_positional (neg : Bool) {d : Scientific} {rest : List Char}
    (hpos : 0 < d.digits) (hshort : rules.boundsAll = true → d.leading + 1 < digitLimit)
    (hrest : NumberEnd rest) :
    unsignedNumber? rules neg (Layout.positional d ++ rest) =
      some (.float (Double.ofDecimal neg d.digits d.exp), rest) := by
  have hlead : d.leading = d.exp + (natChars d.digits).length - 1 := by
    rw [Scientific.leading, decimalLength_eq_length hpos]
  unfold Layout.positional
  split
  · rename_i hexp
    have hfits : rules.admits neg true (natChars (d.digits * Nat.pow 10 d.exp.toNat)) = true :=
      admits_of_length (fun hbounds => by
        have hlen := length_natChars_mul_pow_le (n := d.digits) d.exp.toNat
        have hlimit := hshort hbounds
        omega) neg
    have hread := unsignedNumber?_fraction neg
      (fun c => isDigit_of_mem_natChars (n := d.digits * Nat.pow 10 d.exp.toNat))
      (isWholePart_natChars _) hfits isDigit_of_mem_zero (by simp) hrest
    have hten := Double.ofDecimal_mul_ten neg (d.digits * Nat.pow 10 d.exp.toNat) 0
    have hscale := Double.ofDecimal_mul_pow_ten neg d.digits d.exp d.exp.toNat
    rw [show d.exp - (d.exp.toNat : Int) = 0 by omega] at hscale
    rw [natOfDigits_append_zero, natOfDigits_natChars, List.length_singleton,
      show -((1 : Nat) : Int) = 0 - 1 by omega, hten, hscale] at hread
    rw [← hread]
    simp
  · rename_i hexp
    obtain ⟨ds, fs, htext, hds, hfs, hwhole, hlen, hval, hsize⟩ :=
      fixedText_spec hpos (show 0 < (-d.exp).toNat by omega)
    have hfits : rules.admits neg true ds = true :=
      admits_of_length (fun hbounds => by
        have hlimit := hshort hbounds
        have hone : 1 < digitLimit := by decide
        omega) neg
    have hne : fs ≠ [] := by
      rintro rfl
      rw [List.length_nil] at hlen
      omega
    have hread := unsignedNumber?_fraction neg hds hwhole hfits hfs hne hrest
    rw [hval, hlen, show -(((-d.exp).toNat : Nat) : Int) = d.exp by omega] at hread
    rw [htext, ← hread]
    simp

theorem unsignedNumber?_scientificText (least : Nat) (neg : Bool) {d : Scientific}
    {rest : List Char} (hpos : 0 < d.digits) (hrest : NumberEnd rest) :
    unsignedNumber? rules neg (scientificText 'e' least (natChars d.digits) d.leading ++ rest) =
      some (.float (Double.ofDecimal neg d.digits d.exp), rest) := by
  obtain ⟨es, hes, hall, hne, hval⟩ := exponentChars_spec least d.leading
  have hlead : d.leading = d.exp + (natChars d.digits).length - 1 := by
    rw [Scientific.leading, decimalLength_eq_length hpos]
  have hdigits := natOfDigits_natChars d.digits
  have hdigit : ∀ x ∈ natChars d.digits, isDigit x = true := fun x => isDigit_of_mem_natChars
  obtain ⟨c, cs, hc, hhead⟩ := exists_natChars_eq_cons hpos
  rw [hc] at hlead hdigits hdigit
  have hfirst : ∀ x ∈ [c], isDigit x = true := fun x hx =>
    hdigit x (List.mem_cons.mpr (.inl (List.mem_singleton.mp hx)))
  have hwhole : isWholePart [c] = true := by simp [isWholePart, hhead]
  unfold scientificText
  rw [hc, hes]
  cases cs with
  | nil =>
    have hexp : d.leading = d.exp := by
      rw [List.length_singleton] at hlead
      omega
    have hread := unsignedNumber?_exponent neg (decide (d.leading < 0)) hfirst hwhole
      (admits_singleton rules neg c) hall hne hrest
    rw [hdigits, hval, hexp] at hread
    rw [hexp, ← hread]
    simp
  | cons f fs =>
    have hexp : d.leading - ((f :: fs).length : Int) = d.exp := by
      simp only [List.length_cons] at hlead ⊢
      omega
    have hfs : ∀ x ∈ f :: fs, isDigit x = true := fun x hx => hdigit x (List.mem_cons_of_mem c hx)
    have hread := unsignedNumber?_fraction_exponent neg (decide (d.leading < 0)) hfirst hwhole
      (admits_singleton rules neg c) hfs (List.cons_ne_nil f fs) hall hne hrest
    rw [show [c] ++ f :: fs = c :: f :: fs from rfl, hdigits, hval, hexp] at hread
    rw [← hread]
    simp

/-- **A decimal is read from its text**, whichever form a layout gives it. -/
theorem unsignedNumber?_magnitudeText {l : Layout} (hl : AdmitsLayout rules l) (neg : Bool)
    (d : Scientific) {rest : List Char} (hrest : NumberEnd rest) :
    unsignedNumber? rules neg (l.magnitudeText d ++ rest) =
      some (.float (Double.ofDecimal neg d.digits d.exp), rest) := by
  unfold Layout.magnitudeText
  split
  · rename_i hd
    have hread := unsignedNumber?_fraction neg isDigit_of_mem_zero rfl
      (admits_singleton rules neg '0')
      isDigit_of_mem_zero (by simp) hrest
    rw [show natOfDigits (['0'] ++ ['0']) = 0 from rfl, Double.ofDecimal_zero] at hread
    rw [hd, Double.ofDecimal_zero]
    exact hread
  · rename_i hd
    have hpos : 0 < d.digits := Nat.pos_of_ne_zero hd
    split
    · rename_i hrange
      refine unsignedNumber?_positional neg hpos (fun hbounds => ?_) hrest
      have hlimit := hl hbounds
      omega
    · exact unsignedNumber?_scientificText l.exponentDigits neg hpos hrest

/-! ## Numbers among the other documents -/

/-- What is read as a number begins with a digit. -/
theorem exists_digit_of_unsignedNumber? {neg : Bool} {cs : List Char} {r : Json × List Char}
    (h : unsignedNumber? rules neg cs = some r) : ∃ c t, cs = c :: t ∧ isDigit c = true := by
  cases cs with
  | nil => cases h
  | cons c t =>
    refine ⟨c, t, rfl, ?_⟩
    by_contra hc
    unfold unsignedNumber? at h
    simp [hc, isWholePart] at h

theorem ne_of_isDigit {c : Char} (h : isDigit c = true) :
    c ≠ 'n' ∧ c ≠ 't' ∧ c ≠ 'f' ∧ c ≠ 'N' ∧ c ≠ 'I' ∧ c ≠ '-' ∧ c ≠ '"' ∧ c ≠ '[' ∧ c ≠ '\x7b' := by
  refine ⟨?_, ?_, ?_, ?_, ?_, ?_, ?_, ?_, ?_⟩ <;> (rintro rfl; revert h; decide)

/-- A minus sign, or nothing. -/
def minus (neg : Bool) : List Char := if neg then ['-'] else []

theorem scalar?_of_unsignedNumber? {neg : Bool} {cs : List Char} {r : Json × List Char}
    (h : unsignedNumber? rules neg cs = some r) : scalar? rules (minus neg ++ cs) = some r := by
  obtain ⟨c, t, rfl, hc⟩ := exists_digit_of_unsignedNumber? h
  obtain ⟨hn, ht, hf, hN, hI, hm, -, -, -⟩ := ne_of_isDigit hc
  cases neg with
  | false =>
    unfold scalar?
    have hwords : words.find? (fun w => w.1.isPrefixOf (minus false ++ c :: t)) = none := by
      simp [words, minus, List.isPrefixOf, hn.symm, ht.symm, hf.symm, hN.symm, hI.symm, hm.symm]
    rw [hwords, show minus false ++ c :: t = c :: t from rfl]
    dsimp only
    split
    · rename_i heq
      cases heq
      exact absurd rfl hm
    · exact h
  | true =>
    have hwords : words.find? (fun w => w.1.isPrefixOf (minus true ++ c :: t)) = none := by
      simp [words, minus, List.isPrefixOf, hI.symm]
    unfold scalar?
    rw [hwords]
    exact h

theorem value?_of_unsignedNumber? {neg : Bool} {cs : List Char} {r : Json × List Char}
    (fuel depth : Nat) (h : unsignedNumber? rules neg cs = some r) :
    value? rules (fuel + 1) depth (minus neg ++ cs) = some r := by
  rw [← scalar?_of_unsignedNumber? h]
  obtain ⟨c, t, rfl, hc⟩ := exists_digit_of_unsignedNumber? h
  obtain ⟨-, -, -, -, -, -, hq, hb, ho⟩ := ne_of_isDigit hc
  cases neg with
  | false =>
    show value? rules (fuel + 1) depth (c :: t) = scalar? rules (c :: t)
    unfold value?
    split
    · rename_i heq
      cases heq
      exact absurd rfl hq
    · rename_i heq
      cases heq
      exact absurd rfl hb
    · rename_i heq
      cases heq
      exact absurd rfl ho
    · rfl
  | true => rfl

/-- A finite double is read back, under every layout. -/
theorem value?_render (fuel depth : Nat) {l : Layout} (hl : AdmitsLayout rules l) (neg : Bool)
    (m : Magnitude) {rest : List Char} (hrest : NumberEnd rest) :
    value? rules (fuel + 1) depth (l.render (.fin neg m) ++ rest) =
      some (.float (.fin neg m), rest) := by
  have hread := unsignedNumber?_magnitudeText hl neg m.shortest hrest
  rw [m.ofDecimal_shortest neg] at hread
  rw [← value?_of_unsignedNumber? fuel depth hread, ← List.append_assoc]
  rfl

/-- Whether some rules take a whole number back from its digits. -/
def Rules.AdmitsInt (rules : Rules) (n : Int) : Prop :=
  rules.admits (decide (n < 0)) false (natChars n.natAbs) = true

theorem admitsInt_usual {n : Int} (hn : n.natAbs < Nat.pow 10 digitLimit) :
    Rules.usual.AdmitsInt n := by
  have hlen : (natChars n.natAbs).length ≤ digitLimit := (length_natChars_le (by decide)).mpr hn
  simp [Rules.AdmitsInt, Rules.admits, Rules.usual, hlen]

/-- Every rules admit a whole number with one digit less than the limit. -/
theorem admitsInt_of_lt {k : Nat} (hpos : 0 < k) (hk : k < digitLimit) {n : Int}
    (hn : n.natAbs < Nat.pow 10 k) : rules.AdmitsInt n := by
  have hlen : (natChars n.natAbs).length ≤ k := (length_natChars_le hpos).mpr hn
  have hsign : (if decide (n < 0) = true then 1 else 0) ≤ 1 := by split <;> omega
  unfold Rules.AdmitsInt Rules.admits
  split
  · exact decide_eq_true (by omega)
  · rw [Bool.false_or]
    exact decide_eq_true (by omega)

/-- A whole number that the rules admit is read back. -/
theorem value?_intChars (fuel depth : Nat) {n : Int} (hn : rules.AdmitsInt n)
    {rest : List Char} (hrest : NumberEnd rest) :
    value? rules (fuel + 1) depth (intChars n ++ rest) = some (.int n, rest) := by
  have hread := unsignedNumber?_whole (decide (n < 0))
    (fun c => isDigit_of_mem_natChars (n := n.natAbs)) (isWholePart_natChars _) hn hrest
  have hval : signed (decide (n < 0)) n.natAbs = n := by
    simp only [signed, decide_eq_true_eq]
    split <;> omega
  rw [natOfDigits_natChars, hval] at hread
  rw [← value?_of_unsignedNumber? fuel depth hread, ← List.append_assoc]
  unfold intChars minus
  by_cases h : n < 0 <;> simp [h]

end Baseline.Json
