import Baseline.Json.Basic
import Baseline.Number.Numeral

/-!
# Reading JSON

A strict reader: no comments, no trailing commas, no leading zeros, every escape well formed
and surrogates in pairs.  The words `NaN`, `Infinity` and `-Infinity` are numbers.  Arrays and
objects nested deeper than a limit are refused, as are whole numbers beyond the digit limit; what
counts for the two limits is a matter of rules.

* `Json.Rules` : what counts.
* `Json.readBy?`, `Json.read?` : the document of a text, by some rules and by the usual ones.
-/

set_option autoImplicit false

namespace Baseline

namespace Json

/-- What counts for the limits of a reader. -/
structure Rules where
  /-- Whether an array or an object with nothing in it counts as nested. -/
  emptyNests : Bool
  /-- Whether the digit limit is one for the whole part of every number, the sign counting as a
  digit; else it is one for the digits of whole numbers. -/
  boundsAll : Bool
deriving DecidableEq, Repr

/-- The usual rules. -/
def Rules.usual : Rules where
  emptyNests := true
  boundsAll := false

/-- Whether the whole part of a number keeps the digit limit. -/
def Rules.admits (rules : Rules) (neg fractional : Bool) (whole : List Char) : Bool :=
  if rules.boundsAll then Numeral.signedWithinLimit neg whole
  else fractional || whole.length ≤ Numeral.digitLimit

/-- The four characters that may stand between tokens. -/
def isGap (c : Char) : Bool := c = ' ' || c = '\t' || c = '\n' || c = '\r'

/-- The rest of the text after a gap. -/
def skipGap (cs : List Char) : List Char := cs.dropWhile isGap

/-- The value of a hexadecimal digit. -/
def hexValue? (c : Char) : Option Nat :=
  if '0' ≤ c ∧ c ≤ '9' then some (c.toNat - 48)
  else if 'a' ≤ c ∧ c ≤ 'f' then some (c.toNat - 87)
  else if 'A' ≤ c ∧ c ≤ 'F' then some (c.toNat - 55)
  else none

/-- The value of four hexadecimal digits. -/
def unitValue? (a b c d : Char) : Option Nat :=
  match hexValue? a, hexValue? b, hexValue? c, hexValue? d with
  | some a, some b, some c, some d => some (((a * 16 + b) * 16 + c) * 16 + d)
  | _, _, _, _ => none

/-- The character of a one-letter escape. -/
def escapeValue? (c : Char) : Option Char :=
  if c = '"' ∨ c = '\\' ∨ c = '/' then some c
  else if c = 'n' then some '\n'
  else if c = 'r' then some '\r'
  else if c = 't' then some '\t'
  else if c = 'b' then some '\x08'
  else if c = 'f' then some '\x0c'
  else none

/-- The characters up to the closing quote, and the rest after it. -/
def stringBody? : List Char → Option (List Char × List Char)
  | [] => none
  | '"' :: rest => some ([], rest)
  | '\\' :: 'u' :: a :: b :: c :: d :: rest =>
    match unitValue? a b c d with
    | none => none
    | some high =>
      if 0xdc00 ≤ high ∧ high < 0xe000 then none
      else if 0xd800 ≤ high ∧ high < 0xdc00 then
        match rest with
        | '\\' :: 'u' :: e :: f :: g :: h :: rest =>
          match unitValue? e f g h with
          | none => none
          | some low =>
            if 0xdc00 ≤ low ∧ low < 0xe000 then
              (stringBody? rest).map fun r =>
                (Char.ofNat (0x10000 + (high - 0xd800) * 0x400 + (low - 0xdc00)) :: r.1, r.2)
            else none
        | _ => none
      else (stringBody? rest).map fun r => (Char.ofNat high :: r.1, r.2)
  | '\\' :: c :: rest =>
    match escapeValue? c with
    | some e => (stringBody? rest).map fun r => (e :: r.1, r.2)
    | none => none
  | c :: rest =>
    if c = '\\' ∨ c.toNat < 0x20 then none
    else (stringBody? rest).map fun r => (c :: r.1, r.2)
termination_by structural cs => cs

/-- The digits of a whole part: one zero, or digits that do not begin with zero. -/
def isWholePart : List Char → Bool
  | [] => false
  | ['0'] => true
  | c :: _ => c != '0'

/-- A number after its sign. -/
def unsignedNumber? (rules : Rules) (neg : Bool) (cs : List Char) : Option (Json × List Char) :=
  let whole := cs.takeWhile Numeral.isDigit
  let rest := cs.dropWhile Numeral.isDigit
  if !isWholePart whole then none
  else
    let (frac?, rest) : Option (List Char) × List Char :=
      match rest with
      | '.' :: r => (some (r.takeWhile Numeral.isDigit), r.dropWhile Numeral.isDigit)
      | r => (none, r)
    let (exp?, rest) : Option (Bool × List Char) × List Char :=
      match rest with
      | c :: r =>
        if c = 'e' ∨ c = 'E' then
          let (expNeg, ds) := Numeral.splitSign r
          (some (expNeg, ds.takeWhile Numeral.isDigit), ds.dropWhile Numeral.isDigit)
        else (none, c :: r)
      | [] => (none, [])
    match frac?, exp? with
    | none, none =>
      if rules.admits neg false whole then
        some (int (Numeral.signed neg (Numeral.natOfDigits whole)), rest)
      else none
    | _, _ =>
      let frac := frac?.getD []
      let (expNeg, ds) := exp?.getD (false, ['0'])
      if (frac?.isSome && frac.isEmpty) || ds.isEmpty || !rules.admits neg true whole then none
      else
        some (float (Double.ofDecimal neg (Numeral.natOfDigits (whole ++ frac))
          (Numeral.signed expNeg (Numeral.natOfDigits ds) - frac.length)), rest)

/-- A word and the document that it stands for. -/
def words : List (List Char × Json) := [
  ("null".toList, null), ("true".toList, bool true), ("false".toList, bool false),
  ("NaN".toList, float .nan), ("Infinity".toList, float (.inf false)),
  ("-Infinity".toList, float (.inf true))]

/-- A number or a word. -/
def scalar? (rules : Rules) (cs : List Char) : Option (Json × List Char) :=
  match words.find? fun w => w.1.isPrefixOf cs with
  | some w => some (w.2, cs.drop w.1.length)
  | none =>
    match cs with
    | '-' :: rest => unsignedNumber? rules true rest
    | _ => unsignedNumber? rules false cs

mutual

/-- One document at the head of the text.  `fuel` bounds the calls and `depth` the nesting
that is still allowed. -/
def value? (rules : Rules) : (fuel depth : Nat) → List Char → Option (Json × List Char)
  | 0, _, _ => none
  | fuel + 1, depth, cs =>
    match cs with
    | '"' :: rest => (stringBody? rest).map fun r => (string (String.ofList r.1), r.2)
    | '[' :: rest =>
      match skipGap rest with
      | ']' :: rest => if depth = 0 ∧ rules.emptyNests then none else some (array [], rest)
      | rest =>
        if depth = 0 then none
        else (items? rules fuel (depth - 1) rest).map fun r => (array r.1, r.2)
    | '\x7b' :: rest =>
      match skipGap rest with
      | '\x7d' :: rest => if depth = 0 ∧ rules.emptyNests then none else some (object [], rest)
      | rest =>
        if depth = 0 then none
        else (fields? rules fuel (depth - 1) rest).map fun r => (object r.1, r.2)
    | _ => scalar? rules cs

/-- The items of an array up to its end. -/
def items? (rules : Rules) : (fuel depth : Nat) → List Char → Option (List Json × List Char)
  | 0, _, _ => none
  | fuel + 1, depth, cs =>
    match value? rules fuel depth (skipGap cs) with
    | none => none
    | some (j, rest) =>
      match skipGap rest with
      | ',' :: rest => (items? rules fuel depth rest).map fun r => (j :: r.1, r.2)
      | ']' :: rest => some ([j], rest)
      | _ => none

/-- The fields of an object up to its end. -/
def fields? (rules : Rules) :
    (fuel depth : Nat) → List Char → Option (List (String × Json) × List Char)
  | 0, _, _ => none
  | fuel + 1, depth, cs =>
    match skipGap cs with
    | '"' :: rest =>
      match stringBody? rest with
      | none => none
      | some (name, rest) =>
        match skipGap rest with
        | ':' :: rest =>
          match value? rules fuel depth (skipGap rest) with
          | none => none
          | some (j, rest) =>
            match skipGap rest with
            | ',' :: rest =>
              (fields? rules fuel depth rest).map fun r => ((String.ofList name, j) :: r.1, r.2)
            | '\x7d' :: rest => some ([(String.ofList name, j)], rest)
            | _ => none
        | _ => none
    | _ => none

end

/-- The document of a text, nested no deeper than `depth`. -/
def readBy? (rules : Rules) (depth : Nat) (cs : List Char) : Option Json :=
  match value? rules (2 * cs.length + 2) depth (skipGap cs) with
  | some (j, rest) => if skipGap rest = [] then some j else none
  | none => none

/-- The document of a text by the usual rules. -/
def read? (depth : Nat) (cs : List Char) : Option Json := readBy? .usual depth cs

end Json

end Baseline
