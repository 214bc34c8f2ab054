import Baseline.Number.Whole
import Baseline.Settings.Violation
import Baseline.Text.Lowercase
import Baseline.Text.Utf8
import Baseline.Value.Order

/-!
# Reading one field of the settings

Settings come from files and variables, so a value may reach its field in another form than
the field's own: a truth value as a word or as zero or one, a whole number as a text or as a
number without a fraction, a text as bytes.

* `Field.boolean`, `Field.integer`, `Field.text` : the sorts of fields.
* `Coercion` : how values are taken for values of each sort, and `Coercion.lax` : the usual way.
* `Coercion.ttl`, `Coercion.level` : fields with a range of their own.
-/

set_option autoImplicit false

namespace Baseline

namespace Field

/-- The most seconds that a snapshot may be trusted: those of a day. -/
def dayLength : Int := 86400

/-- The time to live unless told otherwise, in seconds. -/
def defaultTtl : Int := 60

/-- The text behind a text or bytes, with a cause for bytes that are no text. -/
def writtenText? (undecodable : ViolationCause) : Value → Option (Except ViolationCause String)
  | .bytes bs => some (match Text.decodeUtf8? bs with
    | some s => .ok s
    | none => .error undecodable)
  | v => v.text?.map .ok

/-! ## Truth values -/

def trueWords : List String := ["1", "on", "t", "true", "y", "yes"]

def falseWords : List String := ["0", "off", "f", "false", "n", "no"]

/-- The truth value of a word in any letter case. -/
def booleanOfWord (s : String) : Except ViolationCause Bool :=
  let word := String.ofList (s.toList.map Char.toLower)
  if trueWords.contains word then .ok true
  else if falseWords.contains word then .ok false
  else .error .booleanWord

/-- The truth value of a number: zero and one have one, other whole numbers are refused as
words are, and everything else as another type. -/
def booleanOfDouble (x : Double) : Except ViolationCause Bool :=
  if x.same .zero then .ok false
  else if x.same .one then .ok true
  else .error .booleanType

/-- Whole numbers are taken for truth values only within this bound, of either sign. -/
def wordBound : Nat := Nat.pow 2 63

/-- The truth value of a whole number. -/
def booleanOfInt (n : Int) : Except ViolationCause Bool :=
  if n = 0 then .ok false
  else if n = 1 then .ok true
  else if -(wordBound : Int) ≤ n ∧ n < wordBound then .error .booleanWord
  else .error .booleanType

/-- A truth value. -/
def boolean (v : Value) : Except ViolationCause Bool :=
  match v with
  | .bool b => .ok b
  | .int n => booleanOfInt n
  | .float x => booleanOfDouble x
  | .decimal d => match d.toDouble? with
    | some x => booleanOfDouble x
    | none => .error .booleanType
  | v => match writtenText? .booleanWord v with
    | some (.ok s) => booleanOfWord s
    | some (.error e) => .error e
    | none => .error .booleanType

/-! ## Whole numbers -/

/-- How a refused whole number violates its field. -/
def integerViolation : WholeRefusal → ViolationCause
  | .notFinite => .notFinite
  | .fraction => .integerFraction
  | .unreadable => .integerText
  | .tooLarge => .integerTextTooLong

/-- A whole number. -/
def integer (v : Value) : Except ViolationCause Int :=
  match v with
  | .int n => .ok n
  | .bool b => .ok (if b then 1 else 0)
  | .float x => (Whole.ofDouble x).mapError integerViolation
  | .decimal d => (Whole.ofDecimal d).mapError integerViolation
  | v => match writtenText? .integerText v with
    | some (.ok s) => (Whole.ofText s.toList).mapError integerViolation
    | some (.error e) => .error e
    | none => .error .integerType

/-! ## Texts -/

/-- A text. -/
def text (v : Value) : Except ViolationCause String :=
  (writtenText? .textEncoding v).getD (.error .textType)

end Field

/-! ## Coercions -/

/-- How values are taken for the values of fields.  What has the form of the field is taken as it is,
and a map has the form of none. -/
structure Coercion where
  boolean : Value → Except ViolationCause Bool
  integer : Value → Except ViolationCause Int
  text : Value → Except ViolationCause String
  boolean_bool : ∀ b, boolean (.bool b) = .ok b
  integer_int : ∀ n, integer (.int n) = .ok n
  text_text : ∀ s, text (.text s) = .ok s
  boolean_map : ∀ es b, boolean (.map es) ≠ .ok b
  integer_map : ∀ es n, integer (.map es) ≠ .ok n
  text_map : ∀ es s, text (.map es) ≠ .ok s

namespace Coercion

/-- The coercion of this module. -/
def lax : Coercion where
  boolean := Field.boolean
  integer := Field.integer
  text := Field.text
  boolean_bool _ := rfl
  integer_int _ := rfl
  text_text _ := rfl
  boolean_map _ _ := nofun
  integer_map _ _ := nofun
  text_map _ _ := nofun

variable (c : Coercion)

/-- A time to live, in whole seconds: positive and at most a day. -/
def ttl (v : Value) : Except ViolationCause Int :=
  match c.integer v with
  | .error e => .error e
  | .ok n =>
    if n ≤ 0 then .error .notPositive
    else if Field.dayLength < n then .error .aboveDay
    else .ok n

/-- A text or nothing. -/
def optionalText : Value → Except ViolationCause (Option String)
  | .null => .ok none
  | v => (c.text v).map some

/-- A level word, in lower case; `warn` is short for `warning`. -/
def level (v : Value) : Except ViolationCause String :=
  match c.text v with
  | .error e => .error e
  | .ok s =>
    let word := Text.lower s
    if !levelWords.contains word then .error (.unknownLevel s)
    else if word = "warn" then .ok "warning"
    else .ok word

end Coercion

end Baseline
