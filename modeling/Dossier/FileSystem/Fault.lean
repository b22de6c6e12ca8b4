/-!
# Faults

Why a path leads to nothing, or why what it leads to cannot be used. The wording is that of the
system the program runs on.
-/

set_option autoImplicit false

namespace Dossier

/-- Why a path could not be followed, or what is there not be used. -/
inductive Fault where
  | notFound
  | notDirectory
  | isDirectory
  | tooManyLinks
  | nameTooLong
  | zeroCharacter
  | notText
  | denied
  /-- Any other fault of the system, in its own words. -/
  | system (report : String)
deriving DecidableEq, Repr, Inhabited

def Fault.message : Fault → String
  | .notFound => "No such file or directory (os error 2)"
  | .notDirectory => "Not a directory (os error 20)"
  | .isDirectory => "Is a directory (os error 21)"
  | .tooManyLinks => "Too many levels of symbolic links (os error 40)"
  | .nameTooLong => "File name too long (os error 36)"
  | .zeroCharacter => "file name contained an unexpected NUL byte"
  | .notText => "stream did not contain valid UTF-8"
  | .denied => "Permission denied (os error 13)"
  | .system report => report

end Dossier
