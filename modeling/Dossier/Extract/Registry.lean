import Dossier.Extract.Python
import Dossier.Extract.Rust
import Dossier.Text.Quoted
import Std.Data.TreeMap

/-!
# Languages and their files

What is extracted from a file depends on its language, and that on its extension, in any case. A
registry says which extensions belong to which language.
-/

set_option autoImplicit false

namespace Dossier

/-- A family of languages with common rules of extraction. -/
inductive Language where
  | script
  | python
  | rust
deriving DecidableEq, Repr

namespace Language

/-- The written name. -/
def name : Language → String
  | .script => "script"
  | .python => "python"
  | .rust => "rust"

/-- The names that a text declares, in source order. -/
def symbols : Language → String → List String
  | .script => Extract.Script.symbols
  | .python => Extract.Python.symbols
  | .rust => Extract.Rust.symbols

/-- The imports of a text as written, each once. -/
def imports : Language → String → List String
  | .script => Extract.Script.imports
  | .python => Extract.Python.imports
  | .rust => Extract.Rust.imports

/--
The chunk ids that an import of a file may refer to. There may be more of them than files; those
that are not files never meet a chunk.
-/
def resolve : Language → String → String → List String
  | .script => Extract.Script.resolve
  | .python => Extract.Python.resolve
  | .rust => fun _ _ => []

end Language

/-- A text with the letters of ASCII in lower case. -/
def asciiLower (s : String) : String := String.ofList (s.toList.map Char.toLower)

/-- The language of each extension, in lower case. -/
structure Registry where
  byExtension : Std.TreeMap String Language

namespace Registry

/-- A registry without languages. -/
def empty : Registry := ⟨∅⟩

/-- With the extensions as those of a language, in place of any earlier one. -/
def register (r : Registry) (extensions : List String) (l : Language) : Registry :=
  ⟨extensions.foldl (fun m ext => m.insert (asciiLower ext) l) r.byExtension⟩

/-- The known extensions of every language. -/
def standard : Registry :=
  ((empty.register Extract.Script.extensions .script).register ["py"] .python).register ["rs"] .rust

instance : Inhabited Registry := ⟨standard⟩

/-- The language of a file, by its extension. -/
def forPath? (r : Registry) (path : String) : Option Language :=
  (Path.extension? path).bind fun ext => r.byExtension[asciiLower ext]?

/-- A listing of the known extensions. -/
def describe (r : Registry) : String :=
  "ExtractorRegistry \x7b extensions: " ++ Text.quotedList r.byExtension.keys ++ " \x7d"

end Registry
end Dossier
