import Dossier.Chunk
import Dossier.TokenEstimator

/-!
# Assembling

The text that is handed to a model: one section for each chunk, a header with its path and then its
content. Sections are taken in order while their estimates fit a ceiling together; assembly stops
before the first that does not.

The estimates are added up in 32 bits. A sum beyond them counts as the greatest number when it is
held against the ceiling, so under the greatest ceiling a section can be admitted whose estimate
cannot be added any more; then there is no text at all.
-/

set_option autoImplicit false

namespace Dossier

def Chunk.excerpt (c : Chunk) : String :=
  "// File: " ++ c.filePath ++ "\n" ++ c.content ++ "\n\n"

namespace Assembly

/-- Whether the sum of two token counts fits 32 bits. -/
def fits (a b : UInt32) : Bool := a.toNat + b.toNat ≤ TokenEstimator.ceiling

/-- The sum of two token counts, or the greatest count when it does not fit. -/
def saturatingAdd (a b : UInt32) : UInt32 :=
  if fits a b then a + b else TokenEstimator.ceiling.toUInt32

/--
The sections that are taken when `used` tokens are spent already; none when an admitted section
cannot be counted.
-/
def take (e : TokenEstimator) (maxTokens used : UInt32) : List Chunk → Option (List String)
  | [] => some []
  | c :: cs =>
    let tokens := e.estimate c.excerpt
    if maxTokens < saturatingAdd used tokens then some []
    else if fits used tokens then (take e maxTokens (used + tokens) cs).map (c.excerpt :: ·)
    else none

end Assembly

/-- The sections of the leading chunks that fit the ceiling together, if they can be counted. -/
def assemble? (e : TokenEstimator) (maxTokens : UInt32) (cs : List Chunk) : Option String :=
  (Assembly.take e maxTokens 0 cs).map String.join

end Dossier
