import Dossier.Binary64.Order
import Dossier.Binary64.Parts
import Dossier.EditDistance
import Dossier.Search.Terms
import Dossier.Snapshot

/-!
# Searching

A chunk is found by the terms of a query through any enabled channel: a term in a symbol, a term in
the path, or all terms in the content. Symbols and file names may also be near a term instead of
holding it. Found chunks are ranked by a score that adds up what was hit, how exactly, and how
important the chunk is.
-/

set_option autoImplicit false

namespace Dossier

/-- Which channels a search uses, and how. -/
structure SearchOptions where
  symbols : Bool := true
  paths : Bool := true
  content : Bool := false
  /-- Whether symbols and file names may be near a term instead of holding it. -/
  fuzzy : Bool := false
  /-- The greatest edit distance that counts as near. -/
  maxDistance : Nat := 2
  /-- The greatest number of results. -/
  limit : Option Nat := none
  /-- The roles that results may have; any, when not given. -/
  roles : Option (List Role) := none

/-- A chunk that was found, with its score. -/
structure ScoredChunk where
  chunk : Chunk
  score : Float

namespace Search

/-- The part of a file name before its first point; the whole name when that part is empty. -/
def stemOf (fileName : String) : String :=
  match Text.cutFirst '.' fileName.toList with
  | some (c :: stem, _) => String.ofList (c :: stem)
  | _ => fileName

/-- Whether a text holds the term, or is near it when that is enough. -/
def hits (o : SearchOptions) (inside near term : String) : Bool :=
  Text.holds inside term || (o.fuzzy && EditDistance.isNear near term o.maxDistance)

/-- Whether some term hits some symbol. -/
def hitsSymbols (o : SearchOptions) (terms : List String) (c : Chunk) : Bool :=
  c.symbols.any fun symbol =>
    let symbol := Text.lowercase symbol
    terms.any (hits o symbol symbol)

/-- Whether some term hits the path, or the file name without its extensions. -/
def hitsPath (o : SearchOptions) (terms : List String) (c : Chunk) : Bool :=
  terms.any (hits o (Text.lowercase c.filePath) (Text.lowercase (stemOf c.fileName)))

/-- Whether the content holds every term. -/
def hitsContent (terms : List String) (c : Chunk) : Bool :=
  let content := Text.lowercase c.content
  terms.all (Text.holds content)

/-- Whether a chunk has one of the roles asked for and is found through an enabled channel. -/
def finds (o : SearchOptions) (terms : List String) (c : Chunk) : Bool :=
  o.roles.all (·.contains c.role)
    && ((o.symbols && hitsSymbols o terms c)
      || (o.paths && hitsPath o terms c)
      || (o.content && hitsContent terms c))

/-- The number of terms that a text holds. -/
def countHeld (text : String) (terms : List String) : Float :=
  Binary64.ofCount (terms.countP (Text.holds text))

/-- What a symbol in lower case adds: most for being the query, less for holding it or its terms. -/
def symbolScore (query : String) (terms : List String) (symbol : String) : Float :=
  if symbol == query then 50.0
  else if Text.holds symbol query then 20.0
  else 10.0 * countHeld symbol terms

/-- What a file name in lower case adds, for holding the query or its terms. -/
def fileNameScore (query : String) (terms : List String) (fileName : String) : Float :=
  if Text.holds fileName query then 15.0 else 5.0 * countHeld fileName terms

/-- What a role adds. -/
def roleScore : Role → Float
  | .entryPoint => 10.0
  | .coreModule => 5.0
  | _ => 0.0

/-- The score of a chunk: importance, symbols in order, file name, role, path, added in turn. -/
def score (query : String) (terms : List String) (c : Chunk) : Float :=
  let score := c.importance * 10.0
  let score := c.symbols.foldl
    (fun score symbol => score + symbolScore query terms (Text.lowercase symbol)) score
  let score := score + fileNameScore query terms (Text.lowercase c.fileName)
  let score := score + roleScore c.role
  score + 2.0 * countHeld (Text.lowercase c.filePath) terms

/-- The query as a whole, as it is compared with symbols and file names. -/
def wholeQuery (query : String) : String := Text.lowercase (Text.trim query)

/-- The chunks that the terms find, ascending by id; none without terms. -/
def found (o : SearchOptions) (terms : List String) (s : Snapshot) : List Chunk :=
  if terms.isEmpty then [] else s.chunks.toList.filter (finds o terms)

/-- The first elements up to the limit. -/
def upTo {α : Type} (limit : Option Nat) (xs : List α) : List α := limit.elim xs xs.take

end Search

/-- The chunks that a query finds, ascending by id, up to the limit. -/
def search (o : SearchOptions) (query : String) (s : Snapshot) : List Chunk :=
  Search.upTo o.limit (Search.found o (Search.terms query) s)

/-- The chunks that a query finds with their scores, the greatest first, up to the limit. -/
def searchRanked (o : SearchOptions) (query : String) (s : Snapshot) : List ScoredChunk :=
  let terms := Search.terms query
  let scored := (Search.found o terms s).map fun c =>
    (⟨c, Search.score (Search.wholeQuery query) terms c⟩ : ScoredChunk)
  Search.upTo o.limit (scored.mergeSort fun a b => Binary64.descending a.score b.score)

end Dossier
