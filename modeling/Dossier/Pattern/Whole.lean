import Dossier.Pattern.Search

/-!
# Matching a whole text

Whether a pattern matches a text from its start to its end, without backtracking: from the positions
reached so far come those that are reached after one more part of the pattern. Positions are listed
from left to right, each once, so the cost is at most the product of the sizes of pattern and text.
-/

set_option autoImplicit false

namespace Dossier.Pattern

/-- The positions in either list. -/
def union : List Cursor → List Cursor → List Cursor
  | [], ds => ds
  | cs, [] => cs
  | c :: cs, d :: ds =>
    if d.left < c.left then c :: union cs (d :: ds)
    else if c.left < d.left then d :: union (c :: cs) ds
    else c :: union cs ds

/--
The positions after runs of the set from the positions of a list. Positions that are followed by at
least `bound` characters are not listed again.
-/
def flood (s : CharSet) (bound : Nat) : List Cursor → List Cursor
  | [] => []
  | c :: cs =>
    if bound ≤ c.left then flood s bound cs
    else
      match c.run s false with
      | [] => flood s bound cs
      | last :: nearer => (last :: nearer).reverse ++ flood s last.left cs

/-- The positions after some characters of the set, or none, from the positions of a list. -/
def afterRun (s : CharSet) : List Cursor → List Cursor
  | [] => []
  | c :: cs => flood s (c.left + 1) (c :: cs)

/-- The positions reached from those of a list through the pattern. -/
def reach : Pattern → List Cursor → List Cursor
  | .empty, cs => cs
  | .lineStart, cs => cs.filter Cursor.atLineStart
  | .wordEdge, cs => cs.filter Cursor.atWordEdge
  | .one s, cs => cs.filterMap (Cursor.step? s)
  | .run s atLeastOne, cs =>
    afterRun s (if atLeastOne then cs.filterMap (Cursor.step? s) else cs)
  | .seq p q, cs => reach q (reach p cs)
  | .alt p q, cs => union (reach p cs) (reach q cs)
  | .opt p, cs => union (reach p cs) cs
  | .group _ p, cs => reach p cs

/-- Whether the pattern matches the text from its start to its end. -/
def matchesWhole (p : Pattern) (text : String) : Bool :=
  (reach p [Cursor.start text.toList]).any (·.rest.isEmpty)

end Dossier.Pattern
