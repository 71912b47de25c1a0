import MediaSearch.Binary64.Text

/-!
# Numbers

Integers of any size and floating point numbers, kept apart: whole numbers stay exact under
conversion of units.
-/

set_option autoImplicit false

namespace MediaSearch

inductive Number where
  | int (value : Int)
  | real (value : Binary64)
  deriving DecidableEq

namespace Number

/-- The number in units of which `factor` make one: exact for integers, rounded otherwise. -/
def scale (number : Number) (factor : Int) : Number :=
  match number with
  | .int value => .int (value * factor)
  | .real value => .real (value.mul (Binary64.ofInt factor))

/-- The floating point number nearest to the number, unless an integer is too large for one. -/
def toBinary64? : Number → Option Binary64
  | .int value => Binary64.ofInt? value
  | .real value => some value

end Number

end MediaSearch
