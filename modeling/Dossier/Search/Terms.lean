import Dossier.Text.Blank
import Dossier.Text.Lowercase
import Dossier.Text.Word

/-!
# Search terms

The terms of a query: its words in lower case, reduced to word characters, without single characters
and without words that are too common to tell anything.
-/

set_option autoImplicit false

namespace Dossier.Search

/-- Words that are too common to search for. -/
def stopWords : List String :=
  ["a", "an", "and", "are", "as", "at", "be", "by", "do", "does", "for", "from", "how", "in", "is",
    "it", "of", "on", "or", "that", "the", "this", "to", "was", "what", "where", "which", "with"]

/-- A word reduced to its word characters, in lower case. -/
def normalizeTerm (word : String) : String :=
  Text.lowercase (String.ofList (word.toList.filter Text.isWord))

/-- Whether a term tells anything. -/
def isTelling (term : String) : Bool := 1 < term.length && !stopWords.contains term

/-- The terms of a query, in order. -/
def terms (query : String) : List String :=
  ((Text.words query).map normalizeTerm).filter isTelling

end Dossier.Search
