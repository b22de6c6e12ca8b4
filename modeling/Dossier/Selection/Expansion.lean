import Dossier.Selection.Select

/-!
# Expanding

The chunks one import edge away from a selection, in the direction asked for. Those that belong to
the selection already, and those that have nothing to do with the query, are left out; the others
are packed by importance into a budget of their own.
-/

set_option autoImplicit false

namespace Dossier

structure ExpansionRequest where
  direction : Direction := .both
  /-- The budget for what is added. -/
  maxTokensToAdd : UInt32 := 2000
  /-- Only neighbours with something to do with it are added. -/
  query : Option String := none

/-- What an expansion adds, and the neighbours that did not fit. -/
structure Expansion where
  added : List Chunk
  tokensAdded : UInt32
  excluded : List String

namespace ExpansionRequest

def words (r : ExpansionRequest) : List String := r.query.elim [] taskWords

/-- The chunk ids one edge away from an id. -/
def neighborsOf (r : ExpansionRequest) (s : Snapshot) (id : String) : List String :=
  match r.direction with
  | .dependencies => s.dependenciesOf id
  | .dependents => s.dependentsOf id
  | .both => s.dependenciesOf id ++ s.dependentsOf id

/-- Whether a chunk has something to do with the query; every chunk does when it has no words. -/
def concerns (r : ExpansionRequest) (c : Chunk) : Bool :=
  r.words.isEmpty || 0.0 < relevance c r.words

/-- The neighbours of the selected ids that qualify, the most important first, then by id. -/
def candidates (r : ExpansionRequest) (selected : List String) (s : Snapshot) : List Chunk :=
  let chosen := Std.TreeSet.ofList (selected.map normalizeId)
  let around := Std.TreeSet.ofList (chosen.toList.flatMap (r.neighborsOf s))
  let fresh := around.toList.filter fun id => !chosen.contains id
  ((fresh.filterMap s.get?).filter r.concerns).mergeSort fun a b =>
    Binary64.descending a.importance b.importance

def run (r : ExpansionRequest) (selected : List String) (s : Snapshot) : Expansion :=
  let packed := ((Budget.ofLimit r.maxTokensToAdd).pack (r.candidates selected s)).1.finish 0
  ⟨packed.chunks, packed.totalTokens, packed.excluded⟩

end ExpansionRequest
end Dossier
