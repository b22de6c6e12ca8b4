/-!
# Pieces of a text

Searching a text for another, and cutting it at the first or last occurrence of a character.
-/

set_option autoImplicit false

namespace Dossier.Text

/-- Whether `needle` occurs in the list as a run of neighbours. -/
def hasInfix (needle : List Char) : List Char → Bool
  | [] => needle.isEmpty
  | c :: rest => needle.isPrefixOf (c :: rest) || hasInfix needle rest

/-- Whether the text has `needle` somewhere inside; the empty text is inside every text. -/
def holds (s needle : String) : Bool := hasInfix needle.toList s.toList

theorem hasInfix_iff {needle cs : List Char} : hasInfix needle cs = true ↔ needle <:+: cs := by
  induction cs with
  | nil => rw [hasInfix, List.isEmpty_iff, List.infix_nil]
  | cons c rest ih =>
    rw [hasInfix, Bool.or_eq_true, ih, List.isPrefixOf_iff_prefix, List.infix_cons_iff]

theorem holds_iff {s needle : String} : holds s needle = true ↔ needle.toList <:+: s.toList :=
  hasInfix_iff

/-- What precedes the first `sep` and what follows it. -/
def cutFirst (sep : Char) (cs : List Char) : Option (List Char × List Char) :=
  match cs.dropWhile (· != sep) with
  | [] => none
  | _ :: rest => some (cs.takeWhile (· != sep), rest)

/-- What precedes the last `sep` and what follows it. -/
def cutLast (sep : Char) (cs : List Char) : Option (List Char × List Char) :=
  (cutFirst sep cs.reverse).map fun (back, front) => (front.reverse, back.reverse)

end Dossier.Text
