import Baseline.Number.Double

/-!
# File times

A file system keeps times in whole seconds and nanoseconds.  A time that is set is rounded
down to a nanosecond, and one that is read is put together from the two parts again.
-/

set_option autoImplicit false

namespace Baseline

namespace FileTime

/-- The number of nanoseconds in a second. -/
def perSecond : Double := Double.ofDecimal false 1 9

/-- One nanosecond, in seconds. -/
def nanosecond : Double := Double.ofDecimal false 1 (-9)

/-- A whole number that is far within range. -/
def ofWhole (n : Int) : Double := (Double.ofInt? n).getD .zero

/-- The seconds and nanoseconds of a finite time. -/
def split? (x : Double) : Option (Int × Int) := do
  let whole ← x.truncate?
  let nanos ← ((x.sub (ofWhole whole)).mul perSecond).floor?
  if 1000000000 ≤ nanos then return (whole + 1, nanos - 1000000000)
  else if nanos < 0 then return (whole - 1, nanos + 1000000000)
  else return (whole, nanos)

/-- The time that is read after a time was set. -/
def stored (x : Double) : Double :=
  match split? x with
  | some (seconds, nanos) => (ofWhole seconds).add (nanosecond.mul (ofWhole nanos))
  | none => .zero

end FileTime

end Baseline
