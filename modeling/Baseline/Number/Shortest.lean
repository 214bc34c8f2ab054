import Baseline.Number.Double

/-!
# The decimal digits of a binary64 number

A magnitude of `u` units has the exact decimal value `u * 5 ^ 1074 * 10 ^ (-1074)`, so all its
decimal approximations are quotients of one whole number.

* `Magnitude.shortest` : the fewest digits that read back to the number, and of those the
  nearest, a tie going to the even digit; never more than 17 are needed, and the exact
  expansion stands behind them.
* `Magnitude.toPlaces`, `Magnitude.toFigures` : the number rounded to a count of places after
  the point, or to a count of significant figures, a tie going to the even digit.
-/

set_option autoImplicit false

namespace Baseline

/-- Counts up from `k` until `n < 10 ^ k`. -/
def climbToLength (n : Nat) : Nat → Nat → Nat
  | 0, k => k
  | fuel + 1, k => if n < Nat.pow 10 k then k else climbToLength n fuel (k + 1)

/-- The number of decimal digits; the climb starts at a length that the binary length
guarantees not to be too large. -/
def decimalLength (n : Nat) : Nat := climbToLength n (n.log2 + 2) (n.log2 * 1233 / 4096)

/-- A decimal `digits * 10 ^ exp`. -/
structure Scientific where
  digits : Nat
  exp : Int
deriving DecidableEq, Repr

namespace Scientific

/-- Removes up to `fuel` zeros at the end of the digits. -/
def strip : Nat → Scientific → Scientific
  | 0, d => d
  | fuel + 1, d =>
    if d.digits ≠ 0 ∧ d.digits % 10 = 0 then strip fuel ⟨d.digits / 10, d.exp + 1⟩ else d

/-- The exponent of the leading digit. -/
def leading (d : Scientific) : Int := d.exp + (decimalLength d.digits : Int) - 1

end Scientific

namespace Magnitude

/-- The decimal numerator over `10 ^ 1074`. -/
def decimalNumerator (m : Magnitude) : Nat := m.units * Nat.pow 5 1074

/-- Whether the decimal is read as this magnitude. -/
def readsBack (m : Magnitude) (d : Scientific) : Bool :=
  decide (Double.ofDecimal false d.digits d.exp = .fin false m)

/-- The two neighbours with `count` digits, the nearer one first; when both are equally near,
the even one. -/
def neighbours (m : Magnitude) (count : Nat) : List Scientific :=
  let n := m.decimalNumerator
  let drop := decimalLength n - count
  let grid := Nat.pow 10 drop
  let low : Scientific := ⟨n / grid, (drop : Int) - 1074⟩
  let high : Scientific := ⟨n / grid + 1, (drop : Int) - 1074⟩
  if roundDiv n grid = low.digits then [low, high] else [high, low]

/-- The shortest decimal that reads back, the nearest of those. -/
def shortest (m : Magnitude) : Scientific :=
  if m.mant = 0 then ⟨0, 0⟩
  else
    match (List.range 17).findSome? fun k => (m.neighbours (k + 1)).find? m.readsBack with
    | some d => d.strip 20
    | none => (⟨m.decimalNumerator, -1074⟩ : Scientific).strip 1100

/-- The value times `10 ^ places`, rounded to a whole number. -/
def toPlaces (m : Magnitude) (places : Nat) : Nat :=
  roundDiv (m.units * Nat.pow 10 places) Double.unitsPerOne

/-- The value rounded to `count` significant figures (`0 < count`); zero is `0`. -/
def toFigures (m : Magnitude) (count : Nat) : Scientific :=
  if m.mant = 0 then ⟨0, 0⟩
  else
    let n := m.decimalNumerator
    let len := decimalLength n
    if len ≤ count then ⟨n * Nat.pow 10 (count - len), (len : Int) - count - 1074⟩
    else
      let d := roundDiv n (Nat.pow 10 (len - count))
      if d < Nat.pow 10 count then ⟨d, (len : Int) - count - 1074⟩
      else ⟨d / 10, (len : Int) - count - 1073⟩

end Magnitude

end Baseline
