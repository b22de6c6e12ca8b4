import Dossier.Binary64.Parts

/-!
# The total order of binary64 numbers

All numbers in one line: the negative ones from the largest magnitude down, `-0.0` before `+0.0`,
and what is not a number beyond the infinity of its sign. On numbers without the sign bit the order
is that of the bits, on the others the reverse.
-/

set_option autoImplicit false

namespace Dossier.Binary64

/-- The place of a number in the line. -/
def rank (x : Float) : Int :=
  let bits : Nat := x.toBits.toNat
  if bits < signBit then bits else (signBit : Int) - 1 - (bits : Int)

/-- Whether `x` comes no later than `y` when the greatest numbers come first. -/
def descending (x y : Float) : Bool := rank y ≤ rank x

end Dossier.Binary64
