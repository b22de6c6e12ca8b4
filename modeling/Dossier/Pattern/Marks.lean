import Dossier.Pattern.Syntax

/-!
# Sets of positions

A position of a text is known by how many characters follow it, and a set of positions by one mark
for each. The text is given reversed, so that a set is built from the end of the text to its start
in one pass: from a set of positions comes the set of those that lead into it.
-/

set_option autoImplicit false

namespace Dossier.Pattern

/-- The start of the text or just after a line break, by the character before the position. -/
def startsLine (before : Option Char) : Bool := before.all (· == '\n')

/-- Exactly one of the two neighbours of a position is a word character. -/
def isWordEdge (before after : Option Char) : Bool := before.any Text.isWord != after.any Text.isWord

/-- A set of positions; the byte at `n` tells whether the position that `n` characters follow is in
the set. -/
structure Marks where
  bytes : ByteArray

namespace Marks

/-- No position at all, not even an unmarked one. -/
def blank : Marks := ⟨.empty⟩

/-- How many positions have a mark or the lack of one. -/
def size (m : Marks) : Nat := m.bytes.size

/-- Whether a position is in the set. -/
def has (m : Marks) (left : Nat) : Bool :=
  if h : left < m.bytes.size then m.bytes[left] != 0 else false

/-- With the position before the first one, in the set or not. -/
def push (m : Marks) (marked : Bool) : Marks := ⟨m.bytes.push (if marked then 1 else 0)⟩

/-- The positions of a text of so many characters that pass a test. -/
def ofTest (length : Nat) (test : Nat → Bool) : Marks :=
  (length + 1).fold (fun left _ m => m.push (test left)) blank

/-- All positions of a text of so many characters. -/
def all (length : Nat) : Marks := ofTest length fun _ => true

/-- The positions in either set. -/
def union (a b : Marks) : Marks := ofTest (a.size - 1) fun left => a.has left || b.has left

/-- Whether any position is in the set. -/
def any (m : Marks) : Bool := m.size.any fun left _ => m.has left

/-- The positions of the set whose neighbours pass a test, in front of those in `done`. -/
def keepFrom (test : Option Char → Option Char → Bool) (m done : Marks) (after : Option Char) :
    List Char → Marks
  | [] => done.push (m.has done.size && test none after)
  | x :: reversed =>
    keepFrom test m (done.push (m.has done.size && test (some x) after)) (some x) reversed

/-- The positions of the set whose neighbours pass a test. -/
def keep (test : Option Char → Option Char → Bool) (reversed : List Char) (m : Marks) : Marks :=
  keepFrom test m blank none reversed

/-- The positions from which one character of `s` leads into the set. -/
def before (s : CharSet) (reversed : List Char) (m : Marks) : Marks :=
  reversed.foldl (fun done x => done.push (m.has (done.size - 1) && s.has x)) (blank.push false)

/-- The positions from which some characters of `s`, or none, lead into the set. -/
def beforeRun (s : CharSet) (reversed : List Char) (m : Marks) : Marks :=
  reversed.foldl
    (fun done x => done.push (m.has done.size || (done.has (done.size - 1) && s.has x)))
    (blank.push (m.has 0))

end Marks
end Dossier.Pattern
