import Dossier.Path

/-!
# Locations

A path as the sequence of its parts. Spellings that differ only in repeated or trailing
separators, or in a `.` that is not at the start, are one location. A `.` at the start, `..` and
the case of letters count, since what they mean depends on the file system.
-/

set_option autoImplicit false

namespace Dossier

/-- A path by its parts; `isAbsolute` when it starts at the top. -/
structure Location where
  isAbsolute : Bool
  parts : List String
deriving DecidableEq, Repr, Inhabited

namespace Location

/-- Whether a segment adds nothing to a path. -/
def isIdle (segment : String) : Bool := segment == "" || segment == "."

def ofString (path : String) : Location :=
  match Path.segments path with
  | "." :: rest => ⟨false, "." :: rest.filter (!isIdle ·)⟩
  | all => ⟨path.toList.head? == some '/', all.filter (!isIdle ·)⟩

end Location
end Dossier
