import Dossier.Binary64.Parts
import Dossier.Chunk
import Dossier.Glob
import Dossier.Pattern.Search
import Dossier.Text.Lowercase

/-!
# Roles of files

A file gets the role of the first rule that applies to it. The rules look at its path, whole or in
lower case, and in one place at its content. The role, the depth of the path and the name of the
file make up its base importance.
-/

set_option autoImplicit false

namespace Dossier

/-- The globs that make entry points and core modules. -/
structure Classifier where
  entryPoints : List Glob
  coreModules : List Glob

namespace Classifier

open Pattern

def interfaceHead : Pattern :=
  sequence [.wordEdge, literal "interface", someBlanks,
    .one (.union (.union (.range 'A' 'Z') (.range 'a' 'z')) (.ofList ['_', '$']))]

def functionWord : Pattern := sequence [.wordEdge, literal "function", .wordEdge]

/-- A content that declares interfaces and no functions. -/
def declaresTypesOnly (content : String) : Bool :=
  occursIn interfaceHead content && !occursIn functionWord content

/-- Whether the text ends with `tail`. -/
def endsWith (s tail : String) : Bool := tail.toList.isSuffixOf s.toList

/-- Whether the text has one of the markers. -/
def hasAny (s : String) (markers : List String) : Bool := markers.any (Text.holds s)

/-- The role of a file. In front of the lower-case path stands a `/`, so that markers of directories
also apply at the root. -/
def classify (k : Classifier) (path content : String) : Role :=
  let lower := Text.lowercase ("/" ++ path)
  if anyAccepts k.entryPoints path then .entryPoint
  else if hasAny lower [".test.", ".spec.", "__tests__", "/test/"] then .test
  else if Text.holds lower "/types" || endsWith lower ".d.ts" || declaresTypesOnly content then
    .types
  else if hasAny lower ["config", "settings"] || endsWith lower ".json" then .config
  else if endsWith lower ".md" || endsWith lower ".txt" then .documentation
  else if hasAny lower ["/utils/", "/helpers/", "/lib/"] then .utility
  else if anyAccepts k.coreModules path then .coreModule
  else .other

end Classifier

namespace BaseImportance

/-- The bonus of a file at the root, shrinking with every directory above it. -/
def depthBonus (path : String) : Float :=
  let depth := Binary64.ofCount (path.toList.count '/')
  let bonus := 0.1 - depth * 0.02
  if 0.0 < bonus then bonus else 0.0

/-- The bonus of a file that stands for its directory. -/
def indexBonus (path : String) : Float :=
  let stem := String.ofList ((fileNameOf path).toList.takeWhile (· != '.'))
  if ["index", "mod", "__init__"].contains stem then 0.1 else 0.0

end BaseImportance

/-- The importance of a file before its connections count: at most one. -/
def baseImportance (path : String) (r : Role) : Float :=
  let sum := r.baseScore + BaseImportance.depthBonus path + BaseImportance.indexBonus path
  if sum < 1.0 then sum else 1.0

end Dossier
