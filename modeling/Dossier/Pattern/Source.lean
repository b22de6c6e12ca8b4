import Dossier.Pattern.Syntax

/-!
# The text of a pattern

Patterns in the usual notation of regular expressions. Characters with a meaning of their own are
escaped by a backslash, parts that are optional or alternative are grouped.
-/

set_option autoImplicit false

namespace Dossier.Pattern

/-- The characters with a meaning of their own. -/
def metaCharacters : List Char :=
  ['\\', '.', '+', '*', '?', '(', ')', '|', '[', ']', '\x7b', '\x7d', '^', '$', '#', '&', '-', '~']

/-- A character that stands for itself. -/
def escapeChar (c : Char) : List Char := if metaCharacters.contains c then ['\\', c] else [c]

/-- A set inside brackets. -/
def CharSet.items : CharSet → List Char
  | .only c => escapeChar c
  | .anyBut cs => ['[', '^'] ++ cs.flatMap escapeChar ++ [']']
  | .inLine => ['[', '^', '\\', 'n', ']']
  | .word => ['\\', 'w']
  | .blank => ['\\', 's']
  | .range a b => escapeChar a ++ '-' :: escapeChar b
  | .union s t => s.items ++ t.items

/-- A set that stands for one character. -/
def CharSet.source : CharSet → List Char
  | .only c => escapeChar c
  | .inLine => ['.']
  | .range a b => '[' :: (CharSet.range a b).items ++ [']']
  | .union s t => '[' :: (CharSet.union s t).items ++ [']']
  | s => s.items

/-- A group without a number. -/
def grouped (cs : List Char) : List Char := ['(', '?', ':'] ++ cs ++ [')']

/-- The notation of a pattern. -/
def source : Pattern → List Char
  | .empty => []
  | .lineStart => ['(', '?', 'm', ':', '^', ')']
  | .wordEdge => ['\\', 'b']
  | .one s => s.source
  | .run s atLeastOne => s.source ++ [if atLeastOne then '+' else '*']
  | .seq p q => p.source ++ q.source
  | .alt p q => grouped (p.source ++ '|' :: q.source)
  | .opt p => grouped p.source ++ ['?']
  | .group _ p => '(' :: p.source ++ [')']

end Dossier.Pattern
