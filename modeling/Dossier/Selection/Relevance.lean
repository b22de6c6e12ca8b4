import Dossier.Binary64.Parts
import Dossier.Chunk
import Dossier.Text.Blank
import Dossier.Text.Lowercase

/-!
# Relevance

How much a chunk has to do with a task, from the words of the task: each word counts for the path,
for the symbols and for the opening of the content. The sum is capped at one, and compared in
bands of a tenth, so that near ties fall through to importance.
-/

set_option autoImplicit false

namespace Dossier

/-- The words of a task in lower case; no word is too common to count. -/
def taskWords (task : String) : List String := (Text.words task).map Text.lowercase

namespace Relevance

/-- What a word in the path is worth. -/
def pathWeight : Float := 0.3

/-- What a word that is part of a symbol, or has a symbol as part, is worth. -/
def symbolWeight : Float := 0.2

/-- What a word in the opening of the content is worth. -/
def contentWeight : Float := 0.1

/-- The number of characters that count as the opening. -/
def openingLength : Nat := 2000

/-- The lower-case texts of a chunk in which words are looked for. -/
structure Haystack where
  path : String
  symbols : List String
  opening : String

/-- The texts of a chunk. -/
def Haystack.ofChunk (c : Chunk) : Haystack where
  path := Text.lowercase c.filePath
  symbols := c.symbols.map Text.lowercase
  opening := Text.lowercase (String.ofList (c.content.toList.take openingLength))

/-- Whether the path has the word. -/
def Haystack.inPath (h : Haystack) (word : String) : Bool := Text.holds h.path word

/-- Whether the word is part of a symbol or the other way round. -/
def Haystack.inSymbols (h : Haystack) (word : String) : Bool :=
  h.symbols.any fun s => Text.holds s word || Text.holds word s

/-- Whether the opening has the word. -/
def Haystack.inOpening (h : Haystack) (word : String) : Bool := Text.holds h.opening word

/-- The weight added when the condition holds. -/
def addIf (condition : Bool) (weight score : Float) : Float :=
  if condition then score + weight else score

/-- The score after one more word: path, then symbols, then opening. -/
def addWord (h : Haystack) (score : Float) (word : String) : Float :=
  addIf (h.inOpening word) contentWeight <|
    addIf (h.inSymbols word) symbolWeight <|
      addIf (h.inPath word) pathWeight score

/-- The lesser of a score and one. -/
def atMostOne (score : Float) : Float := if score < 1.0 then score else 1.0

end Relevance

/-- The relevance of a chunk to the words of a task, in `[0, 1]`; zero without words. -/
def relevance (c : Chunk) (words : List String) : Float :=
  if words.isEmpty then 0.0
  else
    let h := Relevance.Haystack.ofChunk c
    Relevance.atMostOne (words.foldl (Relevance.addWord h) 0.0)

/-- The band of a relevance: its tenths, with a little added against sums that fall just short. -/
def relevanceBand (r : Float) : Int := Binary64.floorInt ((r + 1e-9) * 10.0)

end Dossier
