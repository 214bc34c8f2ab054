import Baseline.Number.Layout
import Baseline.Text.Quoted

/-!
# UTF-8

The passage between texts and the bytes of files.

* `encodeUtf8`, `decodeUtf8?` : the two directions.
* `undecodable` : the report on bytes that are no text, which names the first flaw.
-/

set_option autoImplicit false

namespace Baseline.Text

/-- The bytes of a text. -/
def encodeUtf8 (s : String) : List UInt8 := s.toUTF8.data.toList

/-- The text of well-formed bytes. -/
def decodeUtf8? (bytes : List UInt8) : Option String := String.fromUTF8? ⟨bytes.toArray⟩

theorem decodeUtf8_encodeUtf8 (s : String) : decodeUtf8? (encodeUtf8 s) = some s := by
  simp only [decodeUtf8?, encodeUtf8, String.fromUTF8?, Array.toArray_toList]
  exact dif_pos s.isValidUTF8

/-! ## Flaws -/

/-- The ranges of the bytes that have to follow a first byte. -/
def followers? (first : Nat) : Option (List (Nat × Nat)) :=
  let tail : Nat × Nat := (0x80, 0xbf)
  if first < 0x80 then some []
  else if first < 0xc2 then none
  else if first < 0xe0 then some [tail]
  else if first = 0xe0 then some [(0xa0, 0xbf), tail]
  else if first = 0xed then some [(0x80, 0x9f), tail]
  else if first < 0xf0 then some [tail, tail]
  else if first = 0xf0 then some [(0x90, 0xbf), tail, tail]
  else if first < 0xf4 then some [tail, tail, tail]
  else if first = 0xf4 then some [(0x80, 0x8f), tail, tail]
  else none

/-- How many bytes fit the ranges in turn. -/
def fitting : List (Nat × Nat) → List Nat → Nat
  | r :: ranges, b :: bytes => if r.1 ≤ b ∧ b ≤ r.2 then fitting ranges bytes + 1 else 0
  | _, _ => 0

/-- The first flaw: its position, its bytes and its nature. -/
structure Utf8Flaw where
  position : Nat
  bytes : List Nat
  nature : String
deriving DecidableEq, Repr

/-- The first flaw from a position on; `fuel` bounds the number of characters. -/
def flawFrom? (position : Nat) : (fuel : Nat) → List Nat → Option Utf8Flaw
  | 0, _ => none
  | _ + 1, [] => none
  | fuel + 1, first :: rest =>
    match followers? first with
    | none => some ⟨position, [first], "invalid start byte"⟩
    | some ranges =>
      let count := fitting ranges rest
      if count = ranges.length then flawFrom? (position + count + 1) fuel (rest.drop count)
      else
        some ⟨position, first :: rest.take count,
          if count = rest.length then "unexpected end of data" else "invalid continuation byte"⟩

/-- The wording of a flaw. -/
def Utf8Flaw.message (f : Utf8Flaw) : String :=
  let number (n : Nat) : String := String.ofList (natChars n)
  "'utf-8' codec can't decode " ++
    (match f.bytes with
      | [b] => "byte 0x" ++ String.ofList (hexDigits 2 b) ++ " in position " ++ number f.position
      | bs => "bytes in position " ++ number f.position ++ "-" ++
          number (f.position + bs.length - 1)) ++
    ": " ++ f.nature

/-- The report on bytes that are no text. -/
def undecodable (bytes : List UInt8) : String :=
  match flawFrom? 0 bytes.length (bytes.map UInt8.toNat) with
  | some f => f.message
  | none => ""

end Baseline.Text
