import Dossier.Role
import Dossier.Text.Piece

/-!
# Chunks

A chunk is one file of a repository together with what was found out about it. Its id is its path
relative to the root, with `/` between segments; ids given from outside may start with `./`.
-/

set_option autoImplicit false

namespace Dossier

/-- A file, with its estimated tokens, its importance and its extracted names. -/
structure Chunk where
  id : String
  filePath : String
  content : String
  tokens : UInt32
  importance : Float
  role : Role
  /-- Names that the file defines, in source order. -/
  symbols : List String
  /-- Import specifiers as written. -/
  dependencies : List String
deriving Inhabited

/-- What precedes the last `/` of a path; nothing for a file at the root. -/
def directoryOf (path : String) : String :=
  (Text.cutLast '/' path.toList).elim "" fun (dir, _) => String.ofList dir

/-- What follows the last `/` of a path. -/
def fileNameOf (path : String) : String :=
  (Text.cutLast '/' path.toList).elim path fun (_, name) => String.ofList name

def Chunk.directory (c : Chunk) : String := directoryOf c.filePath

def Chunk.fileName (c : Chunk) : String := fileNameOf c.filePath

/-- Without any number of leading `./`. -/
def dropHere : List Char → List Char
  | '.' :: '/' :: rest => dropHere rest
  | cs => cs

/-- The id that a user's spelling of it means. -/
def normalizeId (id : String) : String := String.ofList (dropHere id.toList)

end Dossier
