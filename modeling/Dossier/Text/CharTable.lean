/-!
# Sets of characters as toggle points

A set of code points that is a union of intervals is kept as the ascending list of the points where
membership changes: the first point opens an interval, the next closes it, and so on. A code point
belongs to the set exactly when an odd number of points are at most it.
-/

set_option autoImplicit false

namespace Dossier.Text

/-- A set of code points, given by the ascending points where membership changes. -/
structure CharTable where
  toggles : Array Nat

namespace CharTable

/--
The first index of `[lo, hi)` whose entry exceeds `n` (or `hi`), for ascending entries: the number
of entries that are at most `n`.
-/
def rank (toggles : Array Nat) (n lo hi : Nat) : Nat :=
  if lo < hi then
    let mid := (lo + hi) / 2
    if toggles.getD mid 0 ≤ n then rank toggles n (mid + 1) hi else rank toggles n lo mid
  else lo
termination_by hi - lo

/-- Whether the character lies between an opening point and the next closing one. -/
def contains (t : CharTable) (c : Char) : Bool :=
  rank t.toggles c.toNat 0 t.toggles.size % 2 == 1

end CharTable
end Dossier.Text
