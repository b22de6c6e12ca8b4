import Dossier.Extract.Script

/-!
# Rust modules

Public module-level items and use paths. No path refers to a file by itself.
-/

set_option autoImplicit false

namespace Dossier.Extract.Rust

open Pattern

/-- A public item at the start of a line. -/
def declaration : Pattern :=
  sequence [.lineStart, literal "pub",
    .opt (sequence [.one (.only '('), .run (.anyBut [')']) false, .one (.only ')')]),
    someBlanks, optionalKeyword "async", optionalKeyword "unsafe",
    oneOf ["fn", "struct", "enum", "trait", "type", "const", "static", "mod"], someBlanks,
    .group 1 (.seq (.one (.union asciiLetter (.only '_'))) (.run .word false))]

/-- A use path, without what follows its last name. -/
def useLine : Pattern :=
  sequence [.lineStart, blanks, optionalKeyword "pub", literal "use", someBlanks,
    .group 1 (.run (.union .word (.only ':')) true)]

/-- The names of public items. -/
def symbols (content : String) : List String := capturesOf declaration 1 content

/-- The use paths. -/
def imports (content : String) : List String := dedup (capturesOf useLine 1 content)

end Dossier.Extract.Rust
