import Dossier.Selection.Budget
import Dossier.Selection.Candidate
import Dossier.Snapshot

/-!
# Selecting

A request names a budget, a task, filters, a strategy and files that go first. Importance may be
raised for the request. The forced files are offered to the budget in the order given, whatever the
filters say; then the candidates that pass the filters, in the order of the strategy.
-/

set_option autoImplicit false

namespace Dossier

structure SelectionRequest where
  maxTokens : UInt32 := 8000
  task : Option String := none
  /-- Ids that go first, in order, when they fit. -/
  priorityFiles : List String := []
  /-- Candidates below it are dropped. -/
  minImportance : Float := 0.0
  includeTypes : Bool := true
  includeTests : Bool := false
  strategy : Strategy := .importanceFirst

/-- What is added to the importance of some chunks for one request, by id. -/
abbrev Boosts := Std.TreeMap String Float

/-- A number brought into `[0, 1]`; what is not a number stays so. -/
def clampUnit (x : Float) : Float := if x < 0.0 then 0.0 else if 1.0 < x then 1.0 else x

/-- The chunk with its importance raised and brought into `[0, 1]`. -/
def Chunk.boosted (boosts : Boosts) (c : Chunk) : Chunk :=
  { c with importance := clampUnit (c.importance + (boosts[c.id]?).getD 0.0) }

namespace SelectionRequest

def words (r : SelectionRequest) : List String := r.task.elim [] taskWords

def admits (r : SelectionRequest) (c : Chunk) : Bool :=
  if c.importance < r.minImportance then false
  else match c.role with
    | .types => r.includeTypes
    | .test => r.includeTests
    | _ => true

/-- The boosted chunks that pass the filters, ascending by id, with their relevance. -/
def candidates (r : SelectionRequest) (boosts : Boosts) (s : Snapshot) : List Candidate :=
  ((s.chunks.toList.map (Chunk.boosted boosts)).filter r.admits).map fun c =>
    ⟨c, relevance c r.words⟩

/-- The boosted chunks that go first: those among the given ids that exist, in the order given. -/
def forced (r : SelectionRequest) (boosts : Boosts) (pinned : List String) (s : Snapshot) :
    List Chunk :=
  (pinned ++ r.priorityFiles).filterMap fun id =>
    (s.get? (normalizeId id)).map (Chunk.boosted boosts)

/-- The candidates in the order in which they are offered. -/
def ordered (r : SelectionRequest) (boosts : Boosts) (s : Snapshot) : List Candidate :=
  Candidate.order r.strategy (!r.words.isEmpty) (r.candidates boosts s)

/-- The selection with boosts, and with ids that go before the priority files. -/
def runWith (r : SelectionRequest) (boosts : Boosts) (pinned : List String) (s : Snapshot) :
    Selection :=
  let offers := r.forced boosts pinned s ++ (r.ordered boosts s).map (·.chunk)
  ((Budget.ofLimit r.maxTokens).pack offers).1.finish (r.candidates boosts s).length

def run (r : SelectionRequest) (s : Snapshot) : Selection := r.runWith ∅ [] s

end SelectionRequest
end Dossier
