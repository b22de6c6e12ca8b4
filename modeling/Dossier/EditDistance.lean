import Dossier.Text.Piece

/-!
# Edit distance

The least number of single-character insertions, deletions and substitutions that turn one text into
another, by the table of distances between all leading parts, of which only one row is kept. Two
texts are close when their distance is within a bound; a gap between their lengths rules this out
early, and one text inside the other settles it early.
-/

set_option autoImplicit false

namespace Dossier.EditDistance

/--
The rest of a row of the table, from left to right. `left` is the entry just computed, `diagonal`
the entry above it; the lists hold the remaining columns of `short` and of the row above.
-/
def rowFrom (c : Char) (left diagonal : Nat) : List Char → List Nat → List Nat
  | s :: short, above :: row =>
    let here := min (min (diagonal + if c = s then 0 else 1) (above + 1)) (left + 1)
    here :: rowFrom c here above short row
  | _, _ => []

/-- The row after `c`, from the row before it; it starts one higher. -/
def nextRow (short : List Char) (row : List Nat) (c : Char) : List Nat :=
  match row with
  | [] => []
  | first :: row => (first + 1) :: rowFrom c (first + 1) first short row

/-- The distance along rows that are as wide as `short`. -/
def byRows (long short : List Char) : Nat :=
  ((long.foldl (nextRow short) (List.range (short.length + 1))).getLast?).getD 0

/-- The edit distance of two lists of characters; the rows run along the shorter one. -/
def distanceOf (a b : List Char) : Nat :=
  if b.length ≤ a.length then byRows a b else byRows b a

/-- The edit distance of two texts. -/
def distance (a b : String) : Nat := distanceOf a.toList b.toList

/-- How far two numbers lie apart. -/
def gap (m n : Nat) : Nat := (m - n) + (n - m)

/-- Whether two texts are at most `bound` edits apart. -/
def isNear (a b : String) (bound : Nat) : Bool :=
  if bound < gap a.length b.length then false
  else if Text.holds a b || Text.holds b a then true
  else distance a b ≤ bound

end Dossier.EditDistance
