import Dossier.Path
import Dossier.Pattern.Search
import Dossier.Text.Alphanumeric

/-!
# Scripts

Exported names and imports of scripts with modules (the `js` and `ts` families). Extraction goes by
patterns and is a best effort: a missed or an extra name only moves a file in the ranking.
-/

set_option autoImplicit false

namespace Dossier.Extract

open Pattern

/-- The items of a list without repetitions, each at its first place. -/
def dedup (items : List String) : List String :=
  (items.foldl (fun seen i => if seen.contains i then seen else i :: seen) []).reverse

/-- A keyword with blanks after it, or nothing. -/
def optionalKeyword (word : String) : Pattern := .opt (.seq (literal word) someBlanks)

/-- The letters of ASCII. -/
def asciiLetter : CharSet := .union (.range 'A' 'Z') (.range 'a' 'z')

namespace Script

/-- The extensions of scripts, in the order in which they are tried. -/
def extensions : List String := ["ts", "tsx", "js", "jsx", "mjs", "cjs"]

/-- A quotation mark of either kind. -/
def quoteMark : Pattern := .one (.union (.only '\'') (.only '"'))

/-- The quoted specifier of an import. -/
def specifier : Pattern :=
  sequence [quoteMark, .group 1 (.run (.anyBut ['\'', '"']) true), quoteMark]

/-- A name: a letter, an underscore or a dollar sign, then also other word characters. -/
def name : Pattern :=
  .seq (.one (.union asciiLetter (.ofList ['_', '$']))) (.run (.union .word (.only '$')) false)

/-- What declares a name. -/
def declarator : Pattern :=
  .alt (literal "class") <|
    .alt (.seq (literal "function") (.opt (.one (.only '*')))) <|
      oneOf ["const", "let", "var", "interface", "type", "enum"]

/-- An exported declaration. -/
def declaration : Pattern :=
  sequence [.lineStart, blanks, literal "export", someBlanks, optionalKeyword "default",
    optionalKeyword "declare", optionalKeyword "abstract", optionalKeyword "async", declarator,
    someBlanks, .group 1 name]

/-- A list of exported names in braces. -/
def exportList : Pattern :=
  sequence [literal "export", blanks, optionalKeyword "type", .one (.only '\x7b'),
    .group 1 (.run (.anyBut ['\x7d']) false), .one (.only '\x7d')]

/-- An import or export from another module. -/
def fromImport : Pattern := sequence [.wordEdge, literal "from", someBlanks, specifier]

/-- An import for its effects. -/
def bareImport : Pattern := sequence [.lineStart, blanks, literal "import", someBlanks, specifier]

/-- A module asked for in a call. -/
def callImport : Pattern :=
  sequence [.wordEdge, oneOf ["require", "import"], blanks, .one (.only '('), blanks, specifier,
    blanks, .one (.only ')')]

/-- What follows the last `sep`; `best` when there is none. -/
def afterLast (sep best : List Char) : List Char → List Char
  | [] => best
  | c :: cs => afterLast sep ((sep.isPrefixOf? (c :: cs)).getD best) cs

/-- Without any number of leading markers of a type. -/
def dropTypeMarkers : List Char → List Char
  | 't' :: 'y' :: 'p' :: 'e' :: ' ' :: rest => dropTypeMarkers rest
  | cs => cs

/-- The name under which an item of an export list is exported: `a as b` exports `b`. -/
def exportedName (item : List Char) : List Char :=
  Text.trimBlanks (dropTypeMarkers (Text.trimBlanks (afterLast " as ".toList item item)))

/-- Whether an item of an export list is a name of its own. -/
def isOwnName (cs : List Char) : Bool :=
  !cs.isEmpty && cs != "default".toList
    && cs.all fun c => Text.isAlphanumeric c || c == '_' || c == '$'

/-- The names in an export list. -/
def listedNames (list : String) : List String :=
  (((list.toList.splitOn ',').map exportedName).filter isOwnName).map String.ofList

/-- The exported names: those of declarations, then those of export lists. -/
def symbols (content : String) : List String :=
  capturesOf declaration 1 content ++ (capturesOf exportList 1 content).flatMap listedNames

/-- The imported specifiers: from clauses, imports for effects, calls. -/
def imports (content : String) : List String :=
  dedup ([fromImport, bareImport, callImport].flatMap (capturesOf · 1 content))

/-- The files that a resolved target may mean. A compiled name may stand for its typed source. -/
def candidates (target : String) : List String :=
  match Path.extension? target with
  | some ext =>
    if extensions.contains ext || ext == "json" then
      let stem := String.ofList (target.toList.take (target.length - ext.length - 1))
      let compiled := ["js", "jsx", "mjs", "cjs"].contains ext
      target :: if compiled then [stem ++ ".ts", stem ++ ".tsx"] else []
    else expand target
  | none => expand target
where
  /-- The target with each extension, and its index file with each. -/
  expand (target : String) : List String :=
    extensions.map (target ++ "." ++ ·) ++ extensions.map (Path.join target <| "index." ++ ·)

/-- The chunk ids that an import may refer to; only relative specifiers refer to any. -/
def resolve (importer specifier : String) : List String :=
  if specifier.toList.head? != some '.' then []
  else (Path.resolve? (directoryOf importer) specifier).elim [] candidates

end Script
end Dossier.Extract
