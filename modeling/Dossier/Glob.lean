import Dossier.Pattern.Source
import Dossier.Pattern.Whole

/-!
# Globs

Patterns for paths whose segments are separated by `/`, matched against the whole path. A `*` stands
for any run of characters within a segment and `?` for exactly one. A double star that fills the
start of a segment and is followed by `/` stands for any number of leading directories; at the end
of the pattern, after a `/`, for the directory itself and everything below it; anywhere else for any
text. Every other character stands for itself.

A glob is read into parts, each with its own pattern, so that its text as a regular expression and
what it matches come from the same reading.
-/

set_option autoImplicit false

namespace Dossier

inductive GlobPart where
  | literal (c : Char)
  /-- Exactly one character of a segment. -/
  | anyChar
  /-- Any run of characters of a segment. -/
  | anyRun
  /-- Any text. -/
  | anyText
  /-- Any number of leading directories. -/
  | anyDirs
  /-- The directory itself or anything below it. -/
  | below
deriving DecidableEq, Repr

namespace GlobPart

/-- A character of a path that is not the separator. -/
def inSegment : Pattern.CharSet := .anyBut ['/']

def pattern : GlobPart → Pattern
  | .literal c => .one (.only c)
  | .anyChar => .one inSegment
  | .anyRun => .run inSegment false
  | .anyText => .run .inLine false
  | .anyDirs => .opt (.seq (.run .inLine false) (.one (.only '/')))
  | .below => .opt (.seq (.one (.only '/')) (.run .inLine false))

end GlobPart

/-- A glob, as its parts from left to right. -/
structure Glob where
  parts : List GlobPart
deriving DecidableEq, Repr

namespace Glob

/--
What a final double star after a `/` adds to the parts read so far, which are given last first. A
part for leading directories just before it already covers it; a `/` just before it becomes optional
together with everything after it.
-/
def closeBelow (read : List GlobPart) : List GlobPart :=
  let read := match read with
    | .anyDirs :: earlier => earlier
    | other => other
  match read with
  | .literal '/' :: earlier => .below :: earlier
  | other => .anyText :: other

/--
Reads the rest of a glob. `atStart` tells whether a segment starts here, `inside` whether a `/` was
read just before; the parts read so far are given last first.
-/
def readParts (atStart inside : Bool) (read : List GlobPart) : List Char → List GlobPart
  | '*' :: '*' :: '/' :: rest =>
    if atStart then readParts true true (.anyDirs :: read) rest
    else readParts true true (.literal '/' :: .anyText :: read) rest
  | ['*', '*'] => if inside then closeBelow read else .anyText :: read
  | '*' :: '*' :: rest => readParts false false (.anyText :: read) rest
  | '*' :: rest => readParts false false (.anyRun :: read) rest
  | '?' :: rest => readParts false false (.anyChar :: read) rest
  | c :: rest => readParts (c == '/') (c == '/') (.literal c :: read) rest
  | [] => read

def ofString (text : String) : Glob := ⟨(readParts true false [] text.toList).reverse⟩

def pattern (g : Glob) : Pattern := Pattern.sequence (g.parts.map GlobPart.pattern)

/-- The glob as a regular expression, anchored at both ends. -/
def regexText (g : Glob) : String := String.ofList ('^' :: g.pattern.source ++ ['$'])

/-- Whether the glob matches the whole path. -/
def accepts (g : Glob) (path : String) : Bool := g.pattern.matchesWhole path

end Glob

/-- Whether any of the globs matches the path; without globs none does. -/
def anyAccepts (globs : List Glob) (path : String) : Bool := globs.any (·.accepts path)

end Dossier
