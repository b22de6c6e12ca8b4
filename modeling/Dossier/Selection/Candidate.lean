import Dossier.Binary64.Order
import Dossier.Selection.Relevance
import Dossier.Strategy
import Std.Data.TreeSet

/-!
# Candidates in order

A candidate is a chunk with the importance and the relevance that it has for one request. Each
strategy puts the candidates into an order; candidates that it does not tell apart stay in the order
in which they came.
-/

set_option autoImplicit false

namespace Dossier

/-- A chunk, carrying its importance for the request, and its relevance to the task. -/
structure Candidate where
  chunk : Chunk
  relevance : Float

namespace Candidate

/-- Whether `a` comes no later than `b` by importance, the greater first. -/
def byImportance (a b : Candidate) : Bool :=
  Binary64.descending a.chunk.importance b.chunk.importance

/-- Whether `a` comes no later than `b` by band of relevance, and by importance within a band. -/
def byRelevance (a b : Candidate) : Bool :=
  let bandA := relevanceBand a.relevance
  let bandB := relevanceBand b.relevance
  bandB < bandA || (bandA == bandB && byImportance a b)

/-- Whether `a` comes no later than `b`, entry points first, and by importance among equals. -/
def byDepth (a b : Candidate) : Bool :=
  let entryA := a.chunk.role == .entryPoint
  let entryB := b.chunk.role == .entryPoint
  (entryA && !entryB) || (entryA == entryB && byImportance a b)

/-- The directories of the candidates, ascending, each once. -/
def directories (cs : List Candidate) : List String :=
  (Std.TreeSet.ofList (cs.map (·.chunk.directory))).toList

/-- The candidates of each directory by importance, in the order of directories. -/
def queues (cs : List Candidate) : List (List Candidate) :=
  (directories cs).map fun dir =>
    (cs.filter (·.chunk.directory == dir)).mergeSort byImportance

/-- Round by round, the next element of every queue that has one. -/
def roundRobin {α : Type} (queues : List (List α)) : List α :=
  let rounds := (queues.map List.length).foldl max 0
  (List.range rounds).flatMap fun round => queues.filterMap (·[round]?)

/-- The candidates in the order of a strategy. Without a task, relevance tells nothing. -/
def order (s : Strategy) (hasTask : Bool) (cs : List Candidate) : List Candidate :=
  match s with
  | .importanceFirst => cs.mergeSort byImportance
  | .relevanceFirst => cs.mergeSort (if hasTask then byRelevance else byImportance)
  | .breadthFirst => roundRobin (queues cs)
  | .depthFirst => cs.mergeSort byDepth

end Candidate
end Dossier
