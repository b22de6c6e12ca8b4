import Dossier.Extract.Script

/-!
# Python modules

Module-level classes and functions, and imports. A relative import starts with dots: one for the
package of the importer, each further one for a level above.
-/

set_option autoImplicit false

namespace Dossier.Extract.Python

open Pattern

/-- A module-level class or function. -/
def declaration : Pattern :=
  sequence [.lineStart, optionalKeyword "async", oneOf ["class", "def"], someBlanks,
    .group 1 (.seq (.one (.union asciiLetter (.only '_'))) (.run .word false))]

/-- Word characters and points. -/
def dotted : CharSet := .union .word (.only '.')

/-- An import of names from a module, or of a module. -/
def importLine : Pattern :=
  sequence [.lineStart, blanks,
    .alt
      (sequence [literal "from", someBlanks,
        .group 1 (.seq (.run (.only '.') false) (.run dotted false)), someBlanks,
        literal "import", .wordEdge])
      (sequence [literal "import", someBlanks, .group 2 (.run dotted true)])]

/-- The declared names. -/
def symbols (content : String) : List String := capturesOf declaration 1 content

/-- The imported modules. -/
def imports (content : String) : List String :=
  dedup (((allMatches importLine content).filterMap fun found =>
    found.text? 1 <|> found.text? 2).filter (!·.isEmpty))

/-- The directory so many levels up; none above the root. -/
def climb (dir : String) : Nat → Option String
  | 0 => some dir
  | n + 1 => if dir.isEmpty then none else climb (directoryOf dir) n

/-- The chunk ids that an import may refer to: the module as a file, or as a package. -/
def resolve (importer specifier : String) : List String :=
  let cs := specifier.toList
  match (cs.takeWhile (· == '.')).length with
  | 0 => []
  | levels + 1 =>
    match climb (directoryOf importer) levels with
    | none => []
    | some base =>
      match cs.dropWhile (· == '.') with
      | [] => [Path.join base "__init__.py"]
      | module =>
        let path := String.ofList (module.map fun c => if c = '.' then '/' else c)
        let target := Path.join base path
        [target ++ ".py", Path.join target "__init__.py"]

end Dossier.Extract.Python
