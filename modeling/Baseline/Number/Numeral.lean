import Baseline.Number.Double
import Baseline.Text.Blank

/-!
# Numerals

Reading a number that somebody wrote.  A numeral may have blanks around it, digits of any
script, and single underscores between digits.

* `Numeral.unsigned?` : the grammar of decimals, `12`, `1.5`, `.5e-3`, as an exact decimal.
* `Numeral.double?` : a decimal, or one of the words for infinity and NaN, as a double.
* `Numeral.integer?` : a whole number, at most `digitLimit` digits long.
-/

set_option autoImplicit false

namespace Baseline

/-- A sign and an exact decimal `digits * 10 ^ exp`. -/
structure SignedDecimal where
  neg : Bool
  digits : Nat
  exp : Int
deriving DecidableEq, Repr

namespace Numeral

open Text

/-- The most digits that a whole number in text may have. -/
def digitLimit : Nat := 4300

/-- Whether a character is an ASCII digit. -/
def isDigit (c : Char) : Bool := '0' ≤ c && c ≤ '9'

/-- The whole number that a string of ASCII digits denotes. -/
def natOfDigits (cs : List Char) : Nat := cs.foldl (fun n c => 10 * n + (c.toNat - 48)) 0

/-- Splits a leading sign off; `true` is minus. -/
def splitSign : List Char → Bool × List Char
  | '-' :: rest => (true, rest)
  | '+' :: rest => (false, rest)
  | cs => (false, cs)

/-- The exponent part: nothing, or a mark, an optional sign and at least one digit up to the
end. -/
def exponent? : List Char → Option Int
  | [] => some 0
  | mark :: rest =>
    let (neg, ds) := splitSign rest
    if (mark = 'e' ∨ mark = 'E') ∧ ds ≠ [] ∧ ds.all isDigit then
      some (if neg then -(natOfDigits ds : Int) else natOfDigits ds)
    else none

/-- An unsigned decimal: digits, a point with more digits, and an exponent, where at least one
digit stands beside the point. -/
def unsigned? (neg : Bool) (cs : List Char) : Option SignedDecimal :=
  let whole := cs.takeWhile isDigit
  match cs.dropWhile isDigit with
  | '.' :: rest =>
    let frac := rest.takeWhile isDigit
    if whole = [] ∧ frac = [] then none
    else (exponent? (rest.dropWhile isDigit)).map fun e =>
      ⟨neg, natOfDigits (whole ++ frac), e - frac.length⟩
  | rest =>
    if whole = [] then none
    else (exponent? rest).map fun e => ⟨neg, natOfDigits whole, e⟩

/-- A decimal or one of the words `inf`, `infinity`, `nan`, in any letter case, with an
optional sign. -/
def plainDouble? (cs : List Char) : Option Double :=
  let (neg, rest) := splitSign cs
  match String.ofList (rest.map Char.toLower) with
  | "inf" => some (.inf neg)
  | "infinity" => some (.inf neg)
  | "nan" => some .nan
  | _ => (unsigned? neg rest).map fun d => Double.ofDecimal d.neg d.digits d.exp

/-- Removes the underscores, each of which has to stand between two digits; `after` tells
whether a digit comes just before. -/
def joinGroups? (after : Bool) : List Char → Option (List Char)
  | [] => some []
  | '_' :: d :: rest =>
    if after ∧ isDigit d then (joinGroups? true rest).map (d :: ·) else none
  | c :: rest => if c = '_' then none else (joinGroups? (isDigit c) rest).map (c :: ·)

/-- Without surrounding blanks, in ASCII digits. -/
def normalize (cs : List Char) : List Char := trim (cs.map toAsciiDigit)

/-- The double that a numeral in free text denotes. -/
def double? (cs : List Char) : Option Double :=
  (joinGroups? false (normalize cs)).bind plainDouble?

/-- The sign and the digits of a whole number in free text. -/
def integerDigits? (cs : List Char) : Option (Bool × List Char) :=
  let (neg, rest) := splitSign (normalize cs)
  match joinGroups? false rest with
  | some ds => if ds ≠ [] ∧ ds.all isDigit then some (neg, ds) else none
  | none => none

/-- Without the underscores, none of which may stand at an end or next to another. -/
def dropGroups? (cs : List Char) : Option (List Char) :=
  if cs.head? = some '_' ∨ cs.getLast? = some '_' ∨ hasDoubleUnderscore cs then none
  else some (cs.filter (· ≠ '_'))
where
  /-- Whether two underscores stand next to each other. -/
  hasDoubleUnderscore : List Char → Bool
    | '_' :: '_' :: _ => true
    | _ :: rest => hasDoubleUnderscore rest
    | [] => false

/-- Whether a sign and digits together stay within the digit limit. -/
def signedWithinLimit (neg : Bool) (ds : List Char) : Bool :=
  ds.length + (if neg then 1 else 0) ≤ digitLimit

/-- The integer with this sign and these digits. -/
def signed (neg : Bool) (n : Nat) : Int := if neg then -(n : Int) else n

/-- The whole number that a numeral in free text denotes; refused beyond `digitLimit` digits. -/
def integer? (cs : List Char) : Option Int :=
  match integerDigits? cs with
  | some (neg, ds) =>
    if ds.length ≤ digitLimit then some (signed neg (natOfDigits ds)) else none
  | none => none

end Numeral

end Baseline
