import Baseline.Number.Written
import Baseline.Value.Entries

/-!
# Message templates

A message may hold conversions such as `%s` or `%-8.3f`, which are replaced by arguments: the
items of a list in order, or the entries of a map by name, `%(name)s`.

A template is read first, into pieces, and filled afterwards.  What is wrong with a conversion
is kept in its piece and reported only when filling reaches it, since an argument before it may
be at fault earlier.

* `Template.pieces` : the pieces of a template.
* `Template.fill` : a template with its conversions replaced.
-/

set_option autoImplicit false

namespace Baseline

namespace Template

/-! ## Pieces -/

/-- A width or a precision: left out, given, or taken from the arguments. -/
inductive Amount where
  | none
  | given (n : Nat)
  | taken
deriving DecidableEq, Repr

/-- The flags of a conversion. -/
structure Flags where
  left : Bool := false
  plus : Bool := false
  blank : Bool := false
  alternative : Bool := false
  zero : Bool := false
deriving DecidableEq, Repr

/-- A conversion.  `ending` is its last character with its position, or what is wrong with the
conversion. -/
structure Conversion where
  key : Option (Except Fault String)
  flags : Flags
  width : Amount
  precision : Amount
  ending : Except Fault (Char × Nat)

/-- A piece of a template. -/
inductive Piece where
  | literal (c : Char)
  | conversion (c : Conversion)

/-- The characters of a key up to its closing parenthesis, and the rest after it; `depth`
counts the parentheses that are open. -/
def keyBody? (depth : Nat) : List Char → Option (List Char × List Char)
  | [] => none
  | c :: rest =>
    if c = ')' then
      if depth ≤ 1 then some ([], rest)
      else (keyBody? (depth - 1) rest).map fun r => (c :: r.1, r.2)
    else
      (keyBody? (if c = '(' then depth + 1 else depth) rest).map fun r => (c :: r.1, r.2)

/-- The key of a conversion, if it has one. -/
def splitKey (cs : List Char) : Option (Except Fault String) × List Char :=
  match cs with
  | '(' :: rest =>
    match keyBody? 1 rest with
    | some (name, after) => (some (.ok (String.ofList name)), after)
    | none => (some (.error .incompleteFormatKey), [])
  | cs => (none, cs)

/-- The flags at the front. -/
def splitFlags (flags : Flags) : List Char → Flags × List Char
  | [] => (flags, [])
  | c :: rest =>
    if c = '-' then splitFlags { flags with left := true } rest
    else if c = '+' then splitFlags { flags with plus := true } rest
    else if c = ' ' then splitFlags { flags with blank := true } rest
    else if c = '#' then splitFlags { flags with alternative := true } rest
    else if c = '0' then splitFlags { flags with zero := true } rest
    else (flags, c :: rest)

/-- A star or digits at the front. -/
def splitAmount (cs : List Char) : Amount × List Char :=
  match cs with
  | '*' :: rest => (.taken, rest)
  | cs =>
    let digits := cs.takeWhile Numeral.isDigit
    (if digits = [] then .none else .given (Numeral.natOfDigits digits),
      cs.dropWhile Numeral.isDigit)

/-- The precision at the front, if a point introduces one. -/
def splitPrecision (cs : List Char) : Amount × List Char :=
  match cs with
  | '.' :: rest =>
    match splitAmount rest with
    | (.none, rest) => (.given 0, rest)
    | r => r
  | cs => (.none, cs)

/-- The bounds of a width and of a precision. -/
def widthBound : Nat := Nat.pow 2 63 - 1
def precisionBound : Nat := Nat.pow 2 31 - 1

/-- Whether an amount is beyond a bound. -/
def Amount.exceeds (bound : Nat) : Amount → Bool
  | given n => bound < n
  | _ => false

/-- The end of a conversion; one size letter may precede the last character. -/
def splitEnding (total : Nat) (cs : List Char) : Except Fault (Char × Nat) × List Char :=
  let cs := match cs with
    | c :: rest => if c = 'h' ∨ c = 'l' ∨ c = 'L' then rest else cs
    | [] => []
  match cs with
  | [] => (.error .incompleteFormat, [])
  | c :: rest => (.ok (c, total - cs.length), rest)

/-- A conversion after its percent sign, and the rest; `total` is the length of the whole
template. -/
def splitConversion (total : Nat) (cs : List Char) : Conversion × List Char :=
  let (key, cs) := splitKey cs
  let (flags, cs) := splitFlags {} cs
  let (width, cs) := splitAmount cs
  let (precision, cs) := splitPrecision cs
  let (ending, cs) := splitEnding total cs
  let ending :=
    if precision.exceeds precisionBound then .error .precisionTooLarge
    else ending
  (if width.exceeds widthBound then ⟨key, flags, .none, .none, .error .widthTooLarge⟩
    else ⟨key, flags, width, precision, ending⟩, cs)

/-- The pieces of the characters of a template; `fuel` bounds their number. -/
def piecesWithin (total : Nat) : (fuel : Nat) → List Char → List Piece
  | 0, _ => []
  | _ + 1, [] => []
  | fuel + 1, '%' :: '%' :: rest => .literal '%' :: piecesWithin total fuel rest
  | fuel + 1, '%' :: rest =>
    let (c, rest) := splitConversion total rest
    .conversion c :: piecesWithin total fuel rest
  | fuel + 1, c :: rest => .literal c :: piecesWithin total fuel rest

/-- The pieces of a template. -/
def pieces (cs : List Char) : List Piece := piecesWithin cs.length cs.length cs

/-! ## Arguments -/

/-- The arguments that are left: items in order, or one value of which the entries can be
asked for if it is a map. -/
inductive Supply where
  | items (rest : List Value)
  | single (entries : Option Entries) (next : Option Value)

namespace Supply

/-- One value as the whole supply. -/
def ofValue (v : Value) : Supply :=
  match v with
  | .map es => single (some es) (some v)
  | v => single none (some v)

/-- The next argument. -/
def take : Supply → Except Fault (Value × Supply)
  | items [] => .error .tooFewArguments
  | items (v :: rest) => .ok (v, items rest)
  | single _ none => .error .tooFewArguments
  | single entries (some v) => .ok (v, single entries none)

/-- Makes the entry with a name the next argument. -/
def select (name : Except Fault String) : Supply → Except Fault Supply
  | single (some es) _ => do
    let name ← name
    match es.field? name with
    | some v => return single (some es) (some v)
    | none => throw (.missingKey (Text.quoted name))
  | _ => .error .mappingRequired

/-- Checks that nothing is left over. -/
def finish : Supply → Except Fault Unit
  | items (_ :: _) => .error .tooManyArguments
  | single none (some _) => .error .tooManyArguments
  | _ => .ok ()

/-- An amount taken from the arguments has to be a whole number, and no larger than a bound. -/
def takeAmount (bound : Nat) (s : Supply) : Except Fault (Int × Supply) := do
  match ← s.take with
  | (.int n, s) =>
    if -(bound : Int) - 1 ≤ n ∧ n ≤ bound then return (n, s)
    else throw (.amountTooLarge (precisionBound < bound))
  | (.bool b, s) => return (if b then 1 else 0, s)
  | _ => throw .starWantsInteger

end Supply

/-! ## Converting one argument -/

/-- A converted argument: a text, or a number with its sign apart. -/
inductive Converted where
  | text (cs : List Char)
  | number (w : Written)

/-- The whole number that an argument gives. -/
def wholeOf (letter : Char) : Value → Except Fault Int
  | .bool b => .ok (if b then 1 else 0)
  | .int n => .ok n
  | .float .nan => .error .nanToInteger
  | .float x =>
    match x.truncate? with
    | some n => .ok n
    | none => .error .infinityToInteger
  | .decimal (.finite neg coeff exp) =>
    .ok (Numeral.signed neg
      (if 0 ≤ exp then coeff * Nat.pow 10 exp.toNat else coeff / Nat.pow 10 (-exp).toNat))
  | .decimal (.infinite _) => .error .decimalInfinityToInteger
  | .decimal (.nan _ _ _) => .error .decimalNanToInteger
  | v => .error (.numberRequired letter v.fullTypeName)

/-- The whole number that an argument is. -/
def exactWholeOf (letter : Char) : Value → Except Fault Int
  | .bool b => .ok (if b then 1 else 0)
  | .int n => .ok n
  | v => .error (.integerRequired letter v.fullTypeName)

/-- The double that an argument gives. -/
def doubleOf : Value → Except Fault Double
  | .bool b => (Value.bool b).toDouble
  | .int n => (Value.int n).toDouble
  | .float x => .ok x
  | .decimal d => (Value.decimal d).toDouble
  | v => .error (.realRequired v.fullTypeName)

/-- The character that an argument gives. -/
def characterOf (v : Value) : Except Fault Char :=
  let ofPoint (n : Int) : Except Fault Char :=
    if 0 ≤ n ∧ n < 0x110000 then .ok (Char.ofNat n.toNat) else .error .characterOutOfRange
  match v with
  | .bool b => ofPoint (if b then 1 else 0)
  | .int n => ofPoint n
  | v =>
    match v.text?.map String.toList with
    | some [c] => .ok c
    | _ => .error .characterRequired

/-- The precision of a number unless one is given. -/
def defaultPrecision : Nat := 6

/-- The mark of a base in the alternative form. -/
def baseMark (alternative : Bool) (letter : Char) : List Char :=
  if alternative then ['0', letter] else []

/-- A decimal whole number within the digit limit. -/
def decimalWhole (least : Nat) (n : Int) : Except Fault Converted := do
  let _ ← Value.intText n
  return .number (Written.whole 10 [] least n)

/-- Converts an argument as the last character of the conversion tells. -/
def convert (flags : Flags) (precision : Option Nat) (letter : Char) (position : Nat) (v : Value) :
    Except Fault Converted := do
  let alt := flags.alternative
  let places := precision.getD defaultPrecision
  let least := precision.getD 0
  let shortened (s : String) : Converted :=
    .text (match precision with | some n => s.toList.take n | none => s.toList)
  match letter with
  | 's' => return shortened (← v.plain)
  | 'r' => return shortened (← v.shown)
  | 'a' => return shortened (Text.escapeBeyondAscii (← v.shown))
  | 'd' | 'i' | 'u' => decimalWhole least (← wholeOf letter v)
  | 'x' => return .number (Written.whole 16 (baseMark alt 'x') least (← exactWholeOf letter v))
  | 'X' =>
    return .number (Written.whole 16 (baseMark alt 'x') least (← exactWholeOf letter v)).capital
  | 'o' => return .number (Written.whole 8 (baseMark alt 'o') least (← exactWholeOf letter v))
  | 'f' => return .number (Written.double (Written.fixedBody alt places) (← doubleOf v))
  | 'F' => return .number (Written.double (Written.fixedBody alt places) (← doubleOf v)).capital
  | 'e' => return .number (Written.double (Written.scientificBody alt places) (← doubleOf v))
  | 'E' =>
    return .number (Written.double (Written.scientificBody alt places) (← doubleOf v)).capital
  | 'g' => return .number (Written.double (Written.generalBody alt places) (← doubleOf v))
  | 'G' => return .number (Written.double (Written.generalBody alt places) (← doubleOf v)).capital
  | 'c' => return .text [← characterOf v]
  | c => throw (.unsupportedFormat c position)

/-- Fills up to a width with blanks, on the right or on the left. -/
def padded (left : Bool) (width : Nat) (cs : List Char) : List Char :=
  if left then cs ++ List.replicate (width - cs.length) ' ' else paddedLeft ' ' width cs

/-- The sign of a number. -/
def signOf (flags : Flags) (neg : Bool) : List Char :=
  if neg then ['-'] else if flags.plus then ['+'] else if flags.blank then [' '] else []

/-- A converted argument at its width. -/
def Converted.render (flags : Flags) (width : Nat) : Converted → List Char
  | text cs => padded flags.left width cs
  | number w =>
    let lead := signOf flags w.neg ++ w.mark
    if flags.zero && !flags.left then lead ++ paddedLeft '0' (width - lead.length) w.body
    else padded flags.left width (lead ++ w.body)

/-! ## Filling -/

/-- An amount within a bound, with what is left of the arguments. -/
def amountOf (bound : Nat) (a : Amount) (s : Supply) : Except Fault (Option Int × Supply) :=
  match a with
  | .none => .ok (none, s)
  | .given n => .ok (some n, s)
  | .taken => (s.takeAmount bound).map fun r => (some r.1, r.2)

/-- Fills one conversion.  A negative width asks for blanks on the right, and a negative
precision counts as zero. -/
def Conversion.fill (c : Conversion) (s : Supply) : Except Fault (List Char × Supply) := do
  let s ← match c.key with
    | some name => s.select name
    | none => pure s
  let (width, s) ← amountOf widthBound c.width s
  let (precision, s) ← amountOf precisionBound c.precision s
  let (letter, position) ← c.ending
  let (v, s) ← s.take
  let width := width.getD 0
  let flags := if width < 0 then { c.flags with left := true } else c.flags
  let converted ← convert flags (precision.map Int.toNat) letter position v
  return (converted.render flags width.natAbs, s)

/-- Fills the pieces one after the other. -/
def fillPieces (s : Supply) : List Piece → Except Fault (List Char)
  | [] => do
    s.finish
    return []
  | .literal c :: rest => do
    let cs ← fillPieces s rest
    return c :: cs
  | .conversion c :: rest => do
    let (cs, s) ← c.fill s
    let more ← fillPieces s rest
    return cs ++ more

/-- A template with its conversions replaced. -/
def fill (template : String) (s : Supply) : Except Fault String := do
  let cs ← fillPieces s (pieces template.toList)
  return String.ofList cs

end Template

end Baseline
