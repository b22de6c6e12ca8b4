/-!
# Blank characters

The blank characters of every script, what trimming removes, and the words that blanks separate.
-/

set_option autoImplicit false

namespace Dossier.Text

/-- White space: the ASCII blanks, the next-line control and the spaces and breaks beyond ASCII. -/
def isBlank (c : Char) : Bool :=
  let n := c.toNat
  (9 ≤ n && n ≤ 13) || n == 32 || n == 0x85 || n == 0xa0 || n == 0x1680
    || (0x2000 ≤ n && n ≤ 0x200a) || n == 0x2028 || n == 0x2029 || n == 0x202f || n == 0x205f
    || n == 0x3000

/-- Without the characters at the end that satisfy `p`. -/
def dropRight (p : Char → Bool) (cs : List Char) : List Char := (cs.reverse.dropWhile p).reverse

/-- Without the blanks at both ends. -/
def trimBlanks (cs : List Char) : List Char := dropRight isBlank (cs.dropWhile isBlank)

/-- The maximal runs of non-blank characters, in order. -/
def blankSplit (cs : List Char) : List (List Char) :=
  (cs.splitOnP isBlank).filter (!·.isEmpty)

def trim (s : String) : String := String.ofList (trimBlanks s.toList)

/-- The words of a text: what is left between its blanks. -/
def words (s : String) : List String := (blankSplit s.toList).map String.ofList

end Dossier.Text
