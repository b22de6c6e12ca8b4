import Std.Data.TreeMap
import Std.Data.TreeSet

/-!
# Import graphs

A directed graph on ids, as the set of targets of every source that has any. Sources and targets
come in ascending order. A target need not be the id of a chunk: what an import may refer to is
over-approximated, and most candidates name no file.
-/

set_option autoImplicit false

namespace Dossier

structure ImportGraph where
  bySource : Std.TreeMap String (Std.TreeSet String)

namespace ImportGraph

def empty : ImportGraph := ⟨∅⟩

instance : Inhabited ImportGraph := ⟨empty⟩

def addEdge (g : ImportGraph) (source target : String) : ImportGraph :=
  ⟨g.bySource.alter source fun targets => some ((targets.getD ∅).insert target)⟩

def addEdges (g : ImportGraph) (source : String) (targets : List String) : ImportGraph :=
  targets.foldl (fun g target => g.addEdge source target) g

/-- The targets of a source, ascending. -/
def targets (g : ImportGraph) (source : String) : List String :=
  (g.bySource[source]?).elim [] Std.TreeSet.toList

def outDegree (g : ImportGraph) (source : String) : Nat :=
  (g.bySource[source]?).elim 0 Std.TreeSet.size

/-- Every source with its targets, both ascending. -/
def toList (g : ImportGraph) : List (String × List String) :=
  g.bySource.toList.map fun (source, targets) => (source, targets.toList)

def edges (g : ImportGraph) : List (String × String) :=
  g.toList.flatMap fun (source, targets) => targets.map (source, ·)

/-- The same edges in the opposite direction. -/
def converse (g : ImportGraph) : ImportGraph :=
  g.edges.foldl (fun r (source, target) => r.addEdge target source) empty

end ImportGraph
end Dossier
