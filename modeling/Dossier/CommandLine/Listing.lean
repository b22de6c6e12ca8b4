import Dossier.Binary64.Layout
import Dossier.Search.Ranking
import Dossier.Selection.Expansion

/-!
# Listings

What the commands answer to people: a line for each chunk, and a line of totals.
-/

set_option autoImplicit false

namespace Dossier

/-- A number right of blanks. -/
def alignedNumber (width n : Nat) : String := Binary64.padLeft width (toString n)

/-- The line of a selected chunk: importance, tokens, role, path. -/
def Chunk.selectedLine (c : Chunk) : String :=
  Binary64.fixed 2 c.importance ++ "  " ++ alignedNumber 6 c.tokens.toNat ++ "  "
    ++ Binary64.padRight 13 c.role.name ++ "  " ++ c.filePath ++ "\n"

/-- The lines of a selection and its totals. -/
def Selection.listing (s : Selection) : String :=
  String.join (s.chunks.map Chunk.selectedLine)
    ++ toString s.filesSelected ++ " of " ++ toString s.filesConsidered ++ " files, "
    ++ toString s.totalTokens.toNat ++ " tokens (" ++ toString s.remainingTokens.toNat
    ++ " remaining), " ++ toString s.excluded.length ++ " excluded\n"

/-- The line of a found chunk: score, path. -/
def ScoredChunk.line (h : ScoredChunk) : String :=
  Binary64.padLeft 7 (Binary64.fixed 2 h.score) ++ "  " ++ h.chunk.filePath ++ "\n"

/-- The line of an added chunk: tokens, path. -/
def Chunk.addedLine (c : Chunk) : String :=
  alignedNumber 6 c.tokens.toNat ++ "  " ++ c.filePath ++ "\n"

/-- The lines of an expansion and its totals. -/
def Expansion.listing (e : Expansion) : String :=
  String.join (e.added.map Chunk.addedLine)
    ++ toString e.added.length ++ " added, " ++ toString e.tokensAdded.toNat ++ " tokens, "
    ++ toString e.excluded.length ++ " excluded\n"

end Dossier
