import Baseline.Number.Layout
import Baseline.Number.Numeral

/-!
# Numbers written to a precision

The four written forms that a template can ask for, each as a sign and the characters after
it, so that zeros may be put between the two.

* `Written.fixedBody` : a count of places after the point.
* `Written.scientificBody` : one digit before the point, a count of places, and an exponent.
* `Written.generalBody` : a count of figures in whichever of the two forms suits the exponent.
* `Written.whole` : a whole number in a base, at least so many digits long.

In the alternative form the point is always written and no zero at the end is dropped.
-/

set_option autoImplicit false

namespace Baseline

/-- A number as it is written: a sign, a mark of its base, and the rest. -/
structure Written where
  neg : Bool
  mark : List Char
  body : List Char
deriving DecidableEq, Repr

namespace Written

/-- The point that the alternative form puts behind a number without places. -/
def barePoint (alternative : Bool) (places : Nat) : List Char :=
  if alternative && places = 0 then ['.'] else []

/-- A magnitude with a count of places. -/
def fixedBody (alternative : Bool) (places : Nat) (m : Magnitude) : List Char :=
  fixedText (m.toPlaces places) places ++ barePoint alternative places

/-- The digits of a magnitude to a count of figures, and the exponent of the first. -/
def figures (count : Nat) (m : Magnitude) : List Char × Int :=
  if m.mant = 0 then (List.replicate count '0', 0)
  else
    let d := m.toFigures count
    (natChars d.digits, d.leading)

/-- The first digit, the point, and the others. -/
def mantissa (alternative : Bool) (digits : List Char) : List Char :=
  match digits with
  | [] => []
  | c :: rest => if rest.isEmpty then c :: barePoint alternative 0 else c :: '.' :: rest

/-- A magnitude in scientific form. -/
def scientificBody (alternative : Bool) (places : Nat) (m : Magnitude) : List Char :=
  let (digits, leading) := figures (places + 1) m
  mantissa alternative digits ++ 'e' :: exponentChars 2 leading

/-- Drops the zeros at the end of a fraction, and the point when none is left. -/
def dropZeros (cs : List Char) : List Char :=
  if cs.contains '.' then
    ((cs.reverse.dropWhile (· = '0')).dropWhile (· = '.')).reverse
  else cs

/-- A magnitude to a count of figures. -/
def generalBody (alternative : Bool) (count : Nat) (m : Magnitude) : List Char :=
  let count := max count 1
  let (digits, leading) := figures count m
  let tidy (cs : List Char) : List Char := if alternative then cs else dropZeros cs
  if -4 ≤ leading ∧ leading < count then
    let places := ((count : Int) - 1 - leading).toNat
    tidy (fixedText (Numeral.natOfDigits digits) places ++ barePoint alternative places)
  else tidy (mantissa alternative digits) ++ 'e' :: exponentChars 2 leading

/-- A double whose magnitude a form writes. -/
def double (body : Magnitude → List Char) : Double → Written
  | .nan => ⟨false, [], "nan".toList⟩
  | .inf neg => ⟨neg, [], "inf".toList⟩
  | .fin neg m => ⟨neg, [], body m⟩

/-- In capitals. -/
def capital (w : Written) : Written :=
  { w with mark := w.mark.map Char.toUpper, body := w.body.map Char.toUpper }

/-- A whole number in a base, at least `least` digits long. -/
def whole (base : Nat) (mark : List Char) (least : Nat) (n : Int) : Written :=
  ⟨n < 0, mark, paddedLeft '0' least (Nat.toDigits base n.natAbs)⟩

end Written

end Baseline
