import Dossier.Binary64.Parts
import Dossier.Snapshot

/-!
# Connectivity

A chunk that others import gains importance: its share of the most imported chunk's number of
importers, times a fixed weight. No importance exceeds one.
-/

set_option autoImplicit false

namespace Dossier.Connectivity

/-- What the most imported chunk gains. -/
def weight : Float := 0.2

def maxImporters (importers : ImportGraph) (cs : List Chunk) : Nat :=
  (cs.map fun c => importers.outDegree c.id).foldl max 0

/-- What a chunk with `count` importers gains when the most imported one has `most`. -/
def gain (count most : Nat) : Float := Binary64.ofCount count / Binary64.ofCount most * weight

def raise (importers : ImportGraph) (most : Nat) (c : Chunk) : Chunk :=
  let sum := c.importance + gain (importers.outDegree c.id) most
  { c with importance := if sum < 1.0 then sum else 1.0 }

/-- The chunks with the gains of their importers; nothing changes when none is imported. -/
def raiseAll (importers : ImportGraph) (cs : List Chunk) : List Chunk :=
  let most := maxImporters importers cs
  if most = 0 then cs else cs.map (raise importers most)

end Dossier.Connectivity
