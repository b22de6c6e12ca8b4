import Dossier.Text.Blank
import Dossier.Text.Word

/-!
# Patterns

Regular patterns over characters: sets of characters, greedy runs of a set, sequence, ordered
choice, optional and named parts, and two tests that look at a position and consume nothing. A
repetition is always of one set of characters, so every pattern is finite in depth and every match
ends.
-/

set_option autoImplicit false

namespace Dossier
namespace Pattern

/-- A set of characters. -/
inductive CharSet where
  | only (c : Char)
  | anyBut (cs : List Char)
  /-- Everything but a line break. -/
  | inLine
  | word
  | blank
  | range (first last : Char)
  | union (a b : CharSet)
deriving DecidableEq, Repr

/-- Membership in a set. -/
def CharSet.has : CharSet → Char → Bool
  | .only d, c => c == d
  | .anyBut ds, c => !ds.contains c
  | .inLine, c => c != '\n'
  | .word, c => Text.isWord c
  | .blank, c => Text.isBlank c
  | .range a b, c => a ≤ c && c ≤ b
  | .union s t, c => s.has c || t.has c

/-- The union of single characters; none of them when the list is empty. -/
def CharSet.ofList (cs : List Char) : CharSet :=
  match cs with
  | [] => .range '\x01' '\x00'
  | [c] => .only c
  | c :: d :: cs => .union (.only c) (CharSet.ofList (d :: cs))

end Pattern

/-- A pattern over characters. -/
inductive Pattern where
  /-- Matches nothing at all, anywhere. -/
  | empty
  /-- The start of the text or just after a line break. -/
  | lineStart
  /-- Between a word character and a character of another kind, or an end of the text. -/
  | wordEdge
  | one (s : Pattern.CharSet)
  /-- As many characters of the set as possible, giving back one at a time. -/
  | run (s : Pattern.CharSet) (atLeastOne : Bool)
  | seq (p q : Pattern)
  /-- The first alternative is preferred. -/
  | alt (p q : Pattern)
  /-- The part is preferred to its absence. -/
  | opt (p : Pattern)
  /-- A part whose text is kept under a number. -/
  | group (n : Nat) (p : Pattern)
deriving DecidableEq, Repr

namespace Pattern

/-- The characters one after another. -/
def literal (s : String) : Pattern :=
  s.toList.foldr (fun c p => .seq (.one (.only c)) p) .empty

/-- The parts one after another. -/
def sequence (ps : List Pattern) : Pattern := ps.foldr .seq .empty

/-- One of the words; earlier ones are preferred. -/
def oneOf : List String → Pattern
  | [] => .one (.ofList [])
  | [w] => literal w
  | w :: v :: ws => .alt (literal w) (oneOf (v :: ws))

/-- Any number of blanks. -/
def blanks : Pattern := .run .blank false

/-- At least one blank. -/
def someBlanks : Pattern := .run .blank true

end Pattern
end Dossier
