import Baseline.Number.Numeral
import Baseline.Text.Base64
import Baseline.Text.Lowercase
import Baseline.Value.Number
import Baseline.Yaml.Kind

/-!
# Values of YAML scalars

The value that the text of a scalar has under a kind.  A kind given by a tag may not fit the
text; then the value is refused.

* `Scalar.bool`, `Scalar.int`, `Scalar.float`, `Scalar.binary`, `Scalar.timestamp`
-/

set_option autoImplicit false

namespace Baseline.Yaml.Scalar

open Numeral

/-- The truth value of a word, in any letter case. -/
def bool (text : String) : Except Fault Value :=
  let word := Text.lower text
  if ["yes", "true", "on"].contains word then .ok (.bool true)
  else if ["no", "false", "off"].contains word then .ok (.bool false)
  else .error (.missingKey (Text.quoted word))

/-- The characters of a number: its underscores do not count. -/
def withoutGaps (text : String) : List Char := text.toList.filter (· ≠ '_')

/-- The most characters of a refused number that are shown. -/
def shownLimit : Nat := 200

/-- A text that is no whole number in a base. -/
def refused (base : Nat) (cs : List Char) : Fault :=
  .badInteger base (String.ofList ((Text.quoted (String.ofList cs)).toList.take shownLimit))

/-- The value of a digit of any base up to thirty-six. -/
def digitValue (c : Char) : Nat :=
  if isDigit c then c.toNat - 48
  else if 'a' ≤ c ∧ c ≤ 'z' then c.toNat - 87
  else if 'A' ≤ c ∧ c ≤ 'Z' then c.toNat - 55
  else 36

/-- Without the letter that announces a base. -/
def withoutBaseMark (base : Nat) : List Char → List Char
  | '0' :: mark :: rest =>
    let letter := mark.toLower
    if (base = 2 ∧ letter = 'b') ∨ (base = 8 ∧ letter = 'o') ∨ (base = 16 ∧ letter = 'x') then rest
    else '0' :: mark :: rest
  | cs => cs

/-- The whole number in a base that a text denotes.  Only a base that is no power of two has a
limit on the number of digits. -/
def inBase (base : Nat) (cs : List Char) : Except Fault Int :=
  let (neg, rest) := splitSign (normalize cs)
  let body := withoutBaseMark base rest
  let digits := body.takeWhile (digitValue · < base)
  if base = 10 ∧ digitLimit < digits.length then .error (.integerTextTooLong digits.length)
  else if digits = [] ∨ digits.length < body.length then .error (refused base cs)
  else .ok (signed neg (digits.foldl (fun n c => base * n + digitValue c) 0))

/-- The parts of a number between its colons. -/
def parts (cs : List Char) : List (List Char) := cs.splitOn ':'

/-- A whole number without its sign. -/
def unsignedInt (cs : List Char) : Except Fault Int :=
  match cs with
  | [] => .error .emptyText
  | ['0'] => .ok 0
  | '0' :: 'b' :: digits => inBase 2 digits
  | '0' :: 'x' :: digits => inBase 16 digits
  | '0' :: _ => inBase 8 cs
  | _ => do
    let digits ← (parts cs).mapM (inBase 10)
    return digits.foldl (fun n d => 60 * n + d) 0

/-- The whole number of a text. -/
def int (text : String) : Except Fault Value := do
  let cs := withoutGaps text
  if cs = [] then throw .emptyText
  let (neg, body) := splitSign cs
  let n ← unsignedInt body
  return .int (if neg then -n else n)

/-- The sum of the parts of a number, the last of them weighted with a power of sixty. -/
def sumOfSixtieths (total : Double) (power : Nat) : List Double → Except Fault Double
  | [] => .ok total
  | x :: rest => do
    let weight ← (Value.int (Nat.pow 60 power)).toDouble
    sumOfSixtieths (total.add (x.mul weight)) (power + 1) rest

/-- The double that a part of a number denotes. -/
def part (cs : List Char) : Except Fault Double :=
  Value.doubleOfText (Text.quoted (String.ofList cs)) cs

/-- A number without its sign, in small letters. -/
def unsignedFloat (cs : List Char) : Except Fault Double :=
  if cs = ".inf".toList then .ok (.inf false)
  else if cs = ".nan".toList then .ok .nan
  else if cs.contains ':' then do
    let xs ← (parts cs).mapM part
    sumOfSixtieths .zero 0 xs.reverse
  else part cs

/-- The number of a text. -/
def float (text : String) : Except Fault Value := do
  let cs := (Text.lower (String.ofList (withoutGaps text))).toList
  if cs = [] then throw .emptyText
  let (neg, body) := splitSign cs
  let x ← unsignedFloat body
  return .float (if neg then x.neg else x)

/-- The bytes of a text in base 64. -/
def binary (text : String) : Except Fault Value :=
  if text.toList.all (·.toNat < 128) then
    match Text.Base64.decode? text.toList with
    | some bytes => .ok (.bytes bytes)
    | none => .error .markup
  else .error .markup

/-- The date or the moment of a text; a line feed at its end does not count. -/
def timestamp (text : String) : Except Fault Value :=
  match Timestamp.ofText? (Kind.withoutLastBreak text.toList) with
  | some t => t.toValue
  | none => .error .noGroups

end Baseline.Yaml.Scalar
