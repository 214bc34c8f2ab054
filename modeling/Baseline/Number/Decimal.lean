import Baseline.Number.Numeral
import Baseline.Number.Layout

/-!
# Decimal numbers

Exact decimals with their trailing zeros: the value `coeff * 10 ^ exp`, the infinities, and
the NaNs with their payload.

* `Decimal.ofText?` : reads a decimal.
* `Decimal.text` : scientific exactly when the exponent is positive or the leading digit
  stands seven or more places behind the point.
* `Decimal.toDouble?` : the nearest double; a signaling NaN has none.
-/

set_option autoImplicit false

namespace Baseline

inductive Decimal where
  | finite (neg : Bool) (coeff : Nat) (exp : Int)
  | infinite (neg : Bool)
  | nan (neg signaling : Bool) (payload : List Char)
deriving DecidableEq, Repr

namespace Decimal

/-- Without leading zeros. -/
def payloadDigits (cs : List Char) : List Char := cs.dropWhile (· == '0')

/-- Reads the words for infinity and NaN. -/
def wordOfText? (neg : Bool) (cs : List Char) : Option Decimal :=
  let low := cs.map Char.toLower
  if low = "inf".toList ∨ low = "infinity".toList then some (.infinite neg)
  else if low.take 3 = "nan".toList ∧ (low.drop 3).all Numeral.isDigit then
    some (.nan neg false (payloadDigits (low.drop 3)))
  else if low.take 4 = "snan".toList ∧ (low.drop 4).all Numeral.isDigit then
    some (.nan neg true (payloadDigits (low.drop 4)))
  else none

/-- The decimal that a text denotes. -/
def ofText? (cs : List Char) : Option Decimal :=
  let (neg, rest) := Numeral.splitSign (Numeral.normalize cs)
  match Numeral.unsigned? neg (rest.filter (· != '_')) with
  | some d => some (.finite d.neg d.digits d.exp)
  | none => wordOfText? neg rest

/-- The exponent of the leading digit. -/
def adjusted (coeff : Nat) (exp : Int) : Int := exp + (natChars coeff).length - 1

/-- Exponent zero is left out, and a positive one has its sign. -/
def exponentText (e : Int) : List Char :=
  if e = 0 then [] else 'E' :: exponentChars 0 e

/-- The text of a finite decimal without its sign. -/
def magnitudeText (coeff : Nat) (exp : Int) : List Char :=
  if exp ≤ 0 ∧ -6 ≤ adjusted coeff exp then fixedText coeff (-exp).toNat
  else
    match natChars coeff with
    | c :: d :: rest => c :: '.' :: d :: rest ++ exponentText (adjusted coeff exp)
    | cs => cs ++ exponentText (adjusted coeff exp)

/-- The text of a decimal. -/
def text (d : Decimal) : String :=
  let mark (neg : Bool) : List Char := if neg then ['-'] else []
  String.ofList <| match d with
    | .finite neg coeff exp => mark neg ++ magnitudeText coeff exp
    | .infinite neg => mark neg ++ "Infinity".toList
    | .nan neg signaling payload =>
      mark neg ++ (if signaling then "sNaN" else "NaN").toList ++ payload

/-- The nearest double. -/
def toDouble? : Decimal → Option Double
  | .finite neg coeff exp => some (Double.ofDecimal neg coeff exp)
  | .infinite neg => some (.inf neg)
  | .nan _ signaling _ => if signaling then none else some .nan

end Decimal

end Baseline
