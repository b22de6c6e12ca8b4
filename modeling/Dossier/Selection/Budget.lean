import Dossier.Binary64.Parts
import Dossier.Chunk
import Std.Data.TreeSet

/-!
# Budgets

Chunks are offered to a budget of tokens one after another. A chunk that fits into what is left is
packed; one that does not is remembered as excluded. The packing is greedy and keeps the order of
the offers. What is packed and what is excluded is kept in the order of the offers, and once more as
a set of ids to look up.
-/

set_option autoImplicit false

namespace Dossier

/-- A selection of chunks under a budget, with what was left out and statistics. -/
structure Selection where
  /-- In packing order. -/
  chunks : List Chunk
  totalTokens : UInt32
  remainingTokens : UInt32
  /-- Ids that were offered and did not fit, in the order in which they first failed. -/
  excluded : List String
  /-- The number of candidates that passed the filters. -/
  filesConsidered : Nat
  filesSelected : Nat
  coveragePercent : Float
  averageImportance : Float
deriving Inhabited

/-- A number of tokens to spend, and what became of the chunks offered so far. -/
structure Budget where
  limit : UInt32
  used : UInt32
  packed : Array Chunk
  packedIds : Std.TreeSet String
  excluded : Array String
  excludedIds : Std.TreeSet String

namespace Budget

def ofLimit (limit : UInt32) : Budget := ⟨limit, 0, #[], ∅, #[], ∅⟩

/-- The tokens that are left; none when more than the limit were used. -/
def available (b : Budget) : UInt32 := if b.limit ≤ b.used then 0 else b.limit - b.used

def contains (b : Budget) (id : String) : Bool := b.packedIds.contains id

/-- The ids of the packed chunks, in packing order. -/
def ids (b : Budget) : List String := b.packed.toList.map (·.id)

/-- The budget with a chunk packed, whose tokens are spent. -/
def push (b : Budget) (c : Chunk) : Budget :=
  { b with
    used := b.used + c.tokens
    packed := b.packed.push c
    packedIds := b.packedIds.insert c.id }

/-- The budget with an id excluded. -/
def exclude (b : Budget) (id : String) : Budget :=
  { b with
    excluded := b.excluded.push id
    excludedIds := b.excludedIds.insert id }

/--
The budget after a chunk was offered, and whether the chunk was packed. A chunk whose id is already
packed changes nothing.
-/
def add (b : Budget) (c : Chunk) : Budget × Bool :=
  if b.contains c.id then (b, false)
  else if c.tokens ≤ b.available then (b.push c, true)
  else if b.excludedIds.contains c.id then (b, false)
  else (b.exclude c.id, false)

/-- The budget after the chunks were offered in order, and how many were packed. -/
def pack (b : Budget) (cs : List Chunk) : Budget × Nat :=
  cs.foldl
    (fun (b, n) c =>
      let (b, packed) := b.add c
      (b, if packed then n + 1 else n))
    (b, 0)

/-- The share of the considered files that was selected, in percent; zero when none was. -/
def coverage (selected considered : Nat) : Float :=
  if considered = 0 then 0.0
  else Binary64.ofCount selected / Binary64.ofCount considered * 100.0

/-- The mean importance of chunks; zero when there are none. -/
def meanImportance (cs : List Chunk) : Float :=
  if cs.isEmpty then 0.0
  else cs.foldl (fun sum c => sum + c.importance) (-0.0) / Binary64.ofCount cs.length

/-- The selection that was packed, out of so many considered files. -/
def finish (b : Budget) (filesConsidered : Nat) : Selection where
  chunks := b.packed.toList
  totalTokens := b.used
  remainingTokens := b.available
  excluded := b.excluded.toList
  filesConsidered := filesConsidered
  filesSelected := b.packed.size
  coveragePercent := coverage b.packed.size filesConsidered
  averageImportance := meanImportance b.packed.toList

end Budget
end Dossier
