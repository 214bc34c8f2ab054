import Baseline.Number.Shortest

/-!
# Laying out a number as text

The digits of a number are one matter, where the point goes is another.  A `Layout` holds the
decisions of one written form: which exponents are positional, how long the exponent is at
least, and how the values without digits are spelled.

* `Layout.render` : the shortest digits of a double under a layout.
* `paddedLeft`, `fixedText`, `scientificText` : the pieces shared with explicit precisions.
-/

set_option autoImplicit false

namespace Baseline

/-- The decimal digits of a whole number. -/
def natChars (n : Nat) : List Char := Nat.toDigits 10 n

/-- The decimal text of an integer. -/
def intChars (n : Int) : List Char :=
  if n < 0 then '-' :: natChars n.natAbs else natChars n.natAbs

/-- Fills up to `width` characters on the left. -/
def paddedLeft (fill : Char) (width : Nat) (cs : List Char) : List Char :=
  List.replicate (width - cs.length) fill ++ cs

/-- An exponent with its sign and at least `least` digits. -/
def exponentChars (least : Nat) (e : Int) : List Char :=
  (if e < 0 then '-' else '+') :: paddedLeft '0' least (natChars e.natAbs)

/-- `digits * 10 ^ (-places)` with a point `places` digits from the right, and at least one
digit before it; no point when `places = 0`. -/
def fixedText (digits places : Nat) : List Char :=
  let cs := paddedLeft '0' (places + 1) (natChars digits)
  if places = 0 then cs
  else cs.take (cs.length - places) ++ '.' :: cs.drop (cs.length - places)

/-- One digit, a point, the other digits, and the exponent of the first. -/
def scientificText (mark : Char) (least : Nat) (digits : List Char) (leading : Int) : List Char :=
  (match digits with
    | [] => ['0']
    | [c] => [c]
    | c :: rest => c :: '.' :: rest) ++ mark :: exponentChars least leading

/-- The decisions of one written form of numbers. -/
structure Layout where
  /-- The least exponent of the leading digit that is written positionally. -/
  leastPositional : Int
  /-- From this exponent on the scientific form is used. -/
  firstScientific : Int
  /-- The least number of digits in an exponent. -/
  exponentDigits : Nat
  /-- How NaN is spelled. -/
  nan : String
  /-- How positive infinity is spelled. -/
  infinity : String
  /-- How negative infinity is spelled. -/
  minusInfinity : String

namespace Layout

/-- Positional form: whole numbers end in `.0`. -/
def positional (d : Scientific) : List Char :=
  if 0 ≤ d.exp then natChars (d.digits * Nat.pow 10 d.exp.toNat) ++ ['.', '0']
  else fixedText d.digits (-d.exp).toNat

/-- The text of an unsigned decimal. -/
def magnitudeText (l : Layout) (d : Scientific) : List Char :=
  if d.digits = 0 then ['0', '.', '0']
  else if l.leastPositional ≤ d.leading ∧ d.leading < l.firstScientific then positional d
  else scientificText 'e' l.exponentDigits (natChars d.digits) d.leading

/-- The text of a double: the shortest digits that read back. -/
def render (l : Layout) : Double → List Char
  | .nan => l.nan.toList
  | .inf neg => (if neg then l.minusInfinity else l.infinity).toList
  | .fin neg m => (if neg then ['-'] else []) ++ l.magnitudeText m.shortest

end Layout

end Baseline
