import Baseline.Value

/-!
# Raw values as numbers

* `Value.toDouble` : the conversion of a value to a double, or the reason why it has none.
* `Value.finite?` : the finite double behind a value; truth values count as one and zero.
* `Value.quantity?` : the exact number that a numeric value is, for comparisons.
-/

set_option autoImplicit false

namespace Baseline

namespace Value

/-- The double that a text denotes; `shown` is the display of the value it came from. -/
def doubleOfText (shown : String) (cs : List Char) : Except Fault Double :=
  match Numeral.double? cs with
  | some x => .ok x
  | none => .error (.notANumber shown)

/-- The conversion to a double. -/
def toDouble : Value → Except Fault Double
  | bool b => .ok (if b then Double.one else Double.zero)
  | int n =>
    match Double.ofInt? n with
    | some x => .ok x
    | none => .error .tooLargeForDouble
  | float x => .ok x
  | text s => doubleOfText (Text.quoted s) s.toList
  | kind k =>
    doubleOfText ("<SourceType." ++ k.constant ++ ": " ++ Text.quoted k.label ++ ">")
      k.label.toList
  | bytes bs =>
    if bs.all (· < 128) then doubleOfText (Text.quotedBytes bs) (bs.map fun b => Char.ofNat b.toNat)
    else .error (.notANumber (Text.quotedBytes bs))
  | decimal d =>
    match d.toDouble? with
    | some x => .ok x
    | none => .error .signalingNan
  | v => .error (.notReal v.fullTypeName)

theorem toDouble_of_eq_int {v : Value} {n : Int} (hv : v = .int n) :
    v.toDouble = (Double.ofInt? n).elim (.error .tooLargeForDouble) .ok := by
  -- the conversion is hidden behind a variable, so that it is not computed with
  obtain ⟨convert, hconvert⟩ : ∃ f, f = Double.ofInt? := ⟨_, rfl⟩
  unfold toDouble
  rw [← hconvert]
  subst hv
  dsimp only
  cases convert n <;> rfl

/-- The finite double behind a value, if there is one. -/
def finite? (v : Value) : Option Double :=
  match v.toDouble with
  | .ok x => if x.isFinite then some x else none
  | .error _ => none

theorem isFinite_of_finite? {v : Value} {x : Double} (h : v.finite? = some x) :
    x.isFinite = true := by
  unfold finite? at h
  split at h
  · split at h
    · cases h; assumption
    · cases h
  · cases h

/-! ## Exact quantities -/

/-- A number as it enters comparisons: a quotient of whole numbers, or none. -/
inductive Quantity where
  | nan
  | infinite (neg : Bool)
  | exact (num : Int) (den : Nat)

namespace Quantity

/-- `a < b`; never with NaN. -/
def less : Quantity → Quantity → Bool
  | nan, _ => false
  | _, nan => false
  | infinite s, infinite t => s && !t
  | infinite s, exact _ _ => s
  | exact _ _, infinite t => !t
  | exact a c, exact b d => decide (a * d < b * c)

/-- `a = b`; never with NaN. -/
def same : Quantity → Quantity → Bool
  | infinite s, infinite t => s == t
  | exact a c, exact b d => decide (a * d = b * c)
  | _, _ => false

def isNan : Quantity → Bool
  | nan => true
  | _ => false

end Quantity

/-- The quantity of a double. -/
def quantityOfDouble : Double → Quantity
  | .nan => .nan
  | .inf neg => .infinite neg
  | .fin neg m => .exact (if neg then -(m.units : Int) else m.units) Double.unitsPerOne

/-- Beyond this exponent a decimal is larger than every other number it can meet. -/
def exponentCap : Nat := 20000

/-- The quantity of a decimal. -/
def quantityOfDecimal : Decimal → Quantity
  | .nan _ _ _ => .nan
  | .infinite neg => .infinite neg
  | .finite neg coeff exp =>
    let power := Nat.pow 10 (min exp.natAbs exponentCap)
    if 0 ≤ exp then .exact (Numeral.signed neg (coeff * power)) 1
    else .exact (Numeral.signed neg coeff) power

/-- The quantity of a numeric value. -/
def quantity? : Value → Option Quantity
  | bool b => some (.exact (if b then 1 else 0) 1)
  | int n => some (.exact n 1)
  | float x => some (quantityOfDouble x)
  | decimal d => some (quantityOfDecimal d)
  | _ => none

end Value

end Baseline
