import Dossier.Chunk

/-!
# Paths inside a repository

Relative paths with `/` between segments, as texts: their extension, joining a name onto a
directory, where they are from the top, and following a relative specifier from a directory.
-/

set_option autoImplicit false

namespace Dossier.Path

/-- The extension of a file: what follows the last point of its name, unless nothing precedes it. -/
def extension? (path : String) : Option String :=
  match Text.cutLast '.' (fileNameOf path).toList with
  | some (_ :: _, ext) => some (String.ofList ext)
  | _ => none

/-- A name below a directory; at the root it stands alone. -/
def join (dir name : String) : String := if dir.isEmpty then name else dir ++ "/" ++ name

/-- What is at a path from a root, by its path from the top; the root may be the top itself. -/
def below (root path : String) : String :=
  if path.isEmpty then root else if root == "/" then root ++ path else root ++ "/" ++ path

/-- The segments of a path, empty ones included. -/
def segments (path : String) : List String := (path.toList.splitOn '/').map String.ofList

/--
One segment of a specifier, followed from the directory whose segments are given last first: an
empty one and `.` stay, `..` goes up, and is refused at the root.
-/
def follow (dir : List String) (segment : String) : Option (List String) :=
  if segment = "" ∨ segment = "." then some dir
  else if segment = ".." then
    match dir with
    | [] => none
    | _ :: up => some up
  else some (segment :: dir)

/-- The path that a relative specifier leads to from a directory; none outside or at the root. -/
def resolve? (dir specifier : String) : Option String :=
  let start := ((segments dir).filter (· != "")).reverse
  match (segments specifier).foldlM follow start with
  | none | some [] => none
  | some (s :: up) => some ("/".intercalate (s :: up).reverse)

end Dossier.Path
