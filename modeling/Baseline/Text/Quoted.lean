import Baseline.Text.Printable

/-!
# Quoted text

How a text or a string of bytes is shown inside a message: between single quotes, or between
double quotes when it holds a single quote and no double one, with everything that is not
printable escaped.
-/

set_option autoImplicit false

namespace Baseline.Text

/-- One hexadecimal digit, in lower case. -/
def hexDigit (n : Nat) : Char := Char.ofNat (if n < 10 then 48 + n else 87 + n)

/-- The lowest `count` hexadecimal digits of a number. -/
def hexDigits : Nat → Nat → List Char
  | 0, _ => []
  | count + 1, n => hexDigits count (n / 16) ++ [hexDigit (n % 16)]

/-- The quote that surrounds a text. -/
def quoteFor (cs : List Char) : Char :=
  if cs.contains '\'' && !cs.contains '"' then '"' else '\''

/-- The shortest numeric escape of a code point. -/
def codeEscape (n : Nat) : List Char :=
  if n < 0x100 then '\\' :: 'x' :: hexDigits 2 n
  else if n < 0x10000 then '\\' :: 'u' :: hexDigits 4 n
  else '\\' :: 'U' :: hexDigits 8 n

/-- One character between the given quotes; `plain` tells which characters stand for
themselves. -/
def quotedChar (plain : Char → Bool) (quote c : Char) : List Char :=
  if c = quote ∨ c = '\\' then ['\\', c]
  else if c = '\t' then ['\\', 't']
  else if c = '\n' then ['\\', 'n']
  else if c = '\r' then ['\\', 'r']
  else if plain c then [c]
  else codeEscape c.toNat

/-- A text between quotes. -/
def quotedWith (plain : Char → Bool) (cs : List Char) : List Char :=
  let quote := quoteFor cs
  quote :: cs.flatMap (quotedChar plain quote) ++ [quote]

/-- A text between quotes, printable characters kept. -/
def quoted (s : String) : String := String.ofList (quotedWith isPrintable s.toList)

/-- Whether a character is printable ASCII. -/
def isPrintableAscii (c : Char) : Bool := 32 ≤ c.toNat && c.toNat < 127

/-- A string of bytes between quotes, marked with a `b`. -/
def quotedBytes (bytes : List UInt8) : String :=
  String.ofList ('b' :: quotedWith isPrintableAscii (bytes.map fun b => Char.ofNat b.toNat))

/-- A text with every character beyond ASCII escaped. -/
def escapeBeyondAscii (s : String) : String :=
  String.ofList (s.toList.flatMap fun c => if c.toNat < 128 then [c] else codeEscape c.toNat)

end Baseline.Text
