import Baseline.Yaml.Timestamp

/-!
# Kinds of YAML nodes

A node has a kind, given by its tag or, for an unquoted scalar without one, by its text.

* `Kind.ofTag` : the kind that a full tag names.
* `Kind.ofPlain` : the kind of an unquoted text.
-/

set_option autoImplicit false

namespace Baseline.Yaml

open Numeral

/-- What a node is to be read as.  The keys `<<` and `=` have kinds of their own. -/
inductive Kind where
  | null
  | bool
  | int
  | float
  | binary
  | timestamp
  | ordered
  | pairs
  | set
  | text
  | sequence
  | mapping
  | merge
  | value
  | unknown
deriving DecidableEq, Repr

namespace Kind

/-- What the second standard handle stands for. -/
def standard : String := "tag:yaml.org,2002:"

/-- The kinds with their names behind the standard handle. -/
def names : List (String × Kind) :=
  [("null", null), ("bool", bool), ("int", int), ("float", float), ("binary", binary),
    ("timestamp", timestamp), ("omap", ordered), ("pairs", pairs), ("set", set), ("str", text),
    ("seq", sequence), ("map", mapping), ("merge", merge), ("value", value)]

/-- The kind that a full tag names. -/
def ofTag (tag : String) : Kind :=
  match names.find? fun n => tag = standard ++ n.1 with
  | some (_, k) => k
  | none => unknown

/-! ## Unquoted texts -/

/-- Whether a character may stand inside a number: a digit or an underscore. -/
def isDigitOrGap (c : Char) : Bool := isDigit c || c = '_'

/-- Whether a text is not empty and all its characters satisfy a test. -/
def isRun (p : Char → Bool) (cs : List Char) : Bool := !cs.isEmpty && cs.all p

/-- Without the sign in front. -/
def unsigned (cs : List Char) : List Char := (splitSign cs).2

/-- Whether a text starts with a digit. -/
def startsWithDigit (cs : List Char) : Bool := cs.head?.any isDigit

/-- Whether a text is a number below sixty, of one or two digits. -/
def isSixtieth : List Char → Bool
  | [a] => isDigit a
  | [a, b] => '0' ≤ a && a ≤ '5' && isDigit b
  | _ => false

/-- Whether a text consists of one or more parts below sixty with colons in front. -/
def isSixtieths : List Char → Bool
  | ':' :: rest => (rest.splitOn ':').all isSixtieth
  | _ => false

/-- Whether a text is an exponent with a sign, or empty. -/
def isExponent : List Char → Bool
  | [] => true
  | mark :: sign :: digits =>
    (mark = 'e' || mark = 'E') && (sign = '+' || sign = '-') && isRun isDigit digits
  | _ => false

/-- Whether a text is a fraction behind its point, with an exponent. -/
def isFraction (cs : List Char) : Bool := isExponent (cs.dropWhile isDigitOrGap)

/-- Whether an unquoted text is a number with a fraction. -/
def isFloat (cs : List Char) : Bool :=
  let body := unsigned cs
  let special := String.ofList
  (startsWithDigit body &&
    (match body.dropWhile isDigitOrGap with
      | '.' :: fraction => isFraction fraction
      | rest =>
        isSixtieths (rest.takeWhile (· ≠ '.')) &&
          (match rest.dropWhile (· ≠ '.') with
            | '.' :: fraction => fraction.all isDigitOrGap
            | _ => false))) ||
    (match cs with
      | '.' :: fraction => startsWithDigit fraction && isFraction fraction
      | _ => false) ||
    [".inf", ".Inf", ".INF"].contains (special body) ||
    [".nan", ".NaN", ".NAN"].contains (special cs)

/-- Whether a character is a hexadecimal digit or an underscore. -/
def isHexOrGap (c : Char) : Bool :=
  isDigitOrGap c || ('a' ≤ c && c ≤ 'f') || ('A' ≤ c && c ≤ 'F')

/-- Whether an unquoted text is a whole number: binary, octal, hexadecimal, decimal, or in
sixtieths. -/
def isInt (cs : List Char) : Bool :=
  match unsigned cs with
  | ['0'] => true
  | '0' :: 'b' :: digits => isRun (fun c => c = '0' || c = '1' || c = '_') digits
  | '0' :: 'x' :: digits => isRun isHexOrGap digits
  | '0' :: digits => digits.all fun c => ('0' ≤ c && c ≤ '7') || c = '_'
  | body =>
    startsWithDigit body &&
      (match body.dropWhile isDigitOrGap with
        | [] => true
        | rest => isSixtieths rest)

/-- The words for truth values. -/
def boolWords : List String :=
  ["yes", "Yes", "YES", "no", "No", "NO", "true", "True", "TRUE", "false", "False", "FALSE",
    "on", "On", "ON", "off", "Off", "OFF"]

/-- The words for nothing. -/
def nullWords : List String := ["~", "null", "Null", "NULL"]

/-- The words that stand for tag marks. -/
def markWords : List String := ["!", "&", "*"]

/-- Without a line feed at the end. -/
def withoutLastBreak (cs : List Char) : List Char :=
  if cs.getLast? = some '\n' then cs.dropLast else cs

/-- The kind of an unquoted text; a line feed at its end does not count. -/
def ofPlain (text : String) : Kind :=
  let cs := withoutLastBreak text.toList
  let word := String.ofList cs
  if text = "" then null
  else if boolWords.contains word then bool
  else if isFloat cs then float
  else if isInt cs then int
  else if word = "<<" then merge
  else if nullWords.contains word then null
  else if Timestamp.isPlain cs then timestamp
  else if word = "=" then value
  else if markWords.contains word then unknown
  else .text

end Kind

end Baseline.Yaml
