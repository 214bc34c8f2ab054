/-!
# Sets of characters given by ranges

A set of code points is written as the increasing list of its boundaries: where it begins,
where it ends, where it begins again.  A code point belongs to it when an odd number of
boundaries lie at or below it.
-/

set_option autoImplicit false

namespace Baseline.Text

/-- Whether an odd number of the boundaries are at or below the code point. -/
def withinBounds (bounds : Array Nat) (code : Nat) : Bool :=
  bounds.foldl (fun inside b => if b ≤ code then !inside else inside) false

end Baseline.Text
