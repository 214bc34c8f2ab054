import Baseline.Number.Numeral

/-!
# Base 64

Bytes written as letters, six bits to a character, in groups of four.  Characters outside the
alphabet are passed over, and equals signs that fill up a group end the text.

* `Base64.decode?` : the bytes of a text.
-/

set_option autoImplicit false

namespace Baseline.Text.Base64

/-- The six bits that a character stands for. -/
def sextet? (c : Char) : Option Nat :=
  if 'A' ≤ c ∧ c ≤ 'Z' then some (c.toNat - 65)
  else if 'a' ≤ c ∧ c ≤ 'z' then some (c.toNat - 71)
  else if '0' ≤ c ∧ c ≤ '9' then some (c.toNat + 4)
  else if c = '+' then some 62
  else if c = '/' then some 63
  else none

/-- The whole bytes in a group of up to four characters. -/
def groupBytes (group : List Nat) : List UInt8 :=
  let bits := group.foldl (fun n s => 64 * n + s) 0 * Nat.pow 64 (4 - group.length)
  [UInt8.ofNat (bits / 65536), UInt8.ofNat (bits / 256 % 256), UInt8.ofNat (bits % 256)].take
    (group.length - 1)

/-- The bytes of a text after a begun group and some fillers; a group that is left unfinished
is refused. -/
def decodeFrom (group : List Nat) (fillers : Nat) : List Char → Option (List UInt8)
  | [] => if group.isEmpty then some [] else none
  | c :: rest =>
    if c = '=' then
      if group.length < 2 then decodeFrom group fillers rest
      else if 4 ≤ group.length + fillers + 1 then some (groupBytes group)
      else decodeFrom group (fillers + 1) rest
    else
      match sextet? c with
      | none => decodeFrom group fillers rest
      | some s =>
        if group.length = 3 then
          (decodeFrom [] 0 rest).map (groupBytes (group ++ [s]) ++ ·)
        else decodeFrom (group ++ [s]) 0 rest

/-- The bytes of a text, unless its last group is incomplete. -/
def decode? (cs : List Char) : Option (List UInt8) := decodeFrom [] 0 cs

end Baseline.Text.Base64
