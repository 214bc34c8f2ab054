import Baseline.Number.Numeral
import Baseline.Number.Decimal

/-!
# Whole numbers given in another form

A whole number may be written as a text, as a double or as a decimal, as long as nothing is
lost.

* `Whole.ofText` : a numeral, with some liberties; a fraction has to be all zeros.
* `Whole.ofDouble`, `Whole.ofDecimal` : numbers without a fraction.
-/

set_option autoImplicit false

namespace Baseline

/-- Why a number cannot be taken for a whole one. -/
inductive WholeRefusal where
  | notFinite
  | fraction
  | unreadable
  | tooLarge
deriving DecidableEq, Repr

namespace Whole

open Numeral

/-- Doubles are taken for whole numbers strictly below this bound, of either sign. -/
def doubleBound : Nat := Nat.pow 2 63

/-- The whole number that a double is. -/
def ofDouble (x : Double) : Except WholeRefusal Int :=
  match x.truncate? with
  | none => .error .notFinite
  | some n =>
    if !x.isWhole then .error .fraction
    else if n.natAbs < doubleBound then .ok n
    else .error .tooLarge

/-- The whole number that a decimal is, of any size. -/
def ofDecimal : Decimal → Except WholeRefusal Int
  | .finite neg coeff exp =>
    if coeff = 0 then .ok 0
    else if 0 ≤ exp then .ok (signed neg (coeff * Nat.pow 10 exp.toNat))
    else
      let power := Nat.pow 10 (-exp).toNat
      if coeff % power = 0 then .ok (signed neg (coeff / power)) else .error .fraction
  | _ => .error .notFinite

/-- What stands behind the zeros at the start of a text and the underscores among them, of which
`last` was the last one: a number without leading zeros, or the last zero with its fraction. -/
def behindZeros? (last : Char) : List Char → Option (List Char)
  | [] => some [last]
  | c :: rest =>
    if c = '0' ∨ c = '_' then behindZeros? c rest
    else if isDigit c ∨ c = '-' then some (c :: rest)
    else if c = '.' then some (last :: c :: rest)
    else none

/-- Drops the zeros at the start of a text; nothing else than a digit or a minus may stand there. -/
def dropLeadingZeros? : List Char → Option (List Char)
  | [] => none
  | c :: rest =>
    if c = '0' then behindZeros? c rest
    else if isDigit c ∨ c = '-' then some (c :: rest)
    else none

/-- Drops a plus at the start, behind which no minus may stand. -/
def dropPlus? : List Char → Option (List Char)
  | '+' :: '-' :: _ => none
  | '+' :: rest => some rest
  | cs => some cs

/-- Drops a fraction of one or more zeros; any other fraction stays. -/
def dropZeroFraction (cs : List Char) : List Char :=
  match cs.dropWhile (· ≠ '.') with
  | [] => cs
  | _ :: fraction =>
    if fraction ≠ [] ∧ fraction.all (· = '0') then cs.takeWhile (· ≠ '.') else cs

/-- The numeral behind the liberties that a text may take. -/
def strict? (cs : List Char) : Option (List Char) :=
  ((dropPlus? (Text.trim cs)).bind dropLeadingZeros?).map fun ds =>
    let ds := dropZeroFraction ds
    (dropGroups? ds).getD ds

/-- The whole number of a strict numeral behind its sign: one zero, or digits that do not begin with
one, to the end. -/
def ofDigits (neg : Bool) (cs : List Char) : Except WholeRefusal Int :=
  let ds := cs.takeWhile isDigit
  if cs = ['0'] then .ok 0
  else if ds = [] ∨ ds.head? = some '0' then .error .unreadable
  else if !signedWithinLimit neg ds then .error .tooLarge
  else if ds = cs then .ok (signed neg (natOfDigits ds))
  else .error .unreadable

/-- The whole number that a text denotes.  Blanks may stand around it, a plus and zeros before it, a
fraction of zeros behind it, and single underscores inside. -/
def ofText (cs : List Char) : Except WholeRefusal Int :=
  match strict? cs with
  | some ('-' :: rest) => ofDigits true rest
  | some ds => ofDigits false ds
  | none => .error .unreadable

end Whole

end Baseline
