import Dossier.Catalog
import Dossier.ImportGraph

/-!
# Snapshots

What the analysis of a repository found: its chunks, the import edges between them in both
directions, and the parts of it that stand out.
-/

set_option autoImplicit false

namespace Dossier

structure Snapshot where
  root : String
  chunks : Catalog
  entryPoints : List String
  /-- Directories that hold core modules. -/
  coreModules : List String
  /-- From an id to what it imports. -/
  imports : ImportGraph
  /-- From an id to what imports it. -/
  importers : ImportGraph
  totalTokens : Nat
deriving Inhabited

namespace Snapshot

def get? (s : Snapshot) (id : String) : Option Chunk := s.chunks.get? id

/-- The ids of the chunks that a file imports, ascending. -/
def dependenciesOf (s : Snapshot) (id : String) : List String :=
  (s.imports.targets id).filter s.chunks.contains

/-- The ids of the chunks that import a file, ascending. -/
def dependentsOf (s : Snapshot) (id : String) : List String :=
  (s.importers.targets id).filter s.chunks.contains

/-- The number of imports that lead from a chunk to a chunk. -/
def resolvedImports (s : Snapshot) : Nat :=
  s.chunks.ids.foldl (fun n id => n + (s.dependenciesOf id).length) 0

def countRole (s : Snapshot) (r : Role) : Nat := s.chunks.toList.countP (·.role == r)

/-- The roles that occur with their numbers, in the order of roles. -/
def roleCounts (s : Snapshot) : List (Role × Nat) :=
  (Role.all.map fun r => (r, s.countRole r)).filter fun (_, n) => n != 0

/-- A report in a few lines: the totals, the roles that occur, the entry points. -/
def summary (s : Snapshot) : String :=
  let totals := "Repo map: " ++ toString s.chunks.size ++ " files, " ++ toString s.totalTokens
    ++ " tokens, " ++ toString s.resolvedImports ++ " resolved imports\n"
  let roles := s.roleCounts.map fun (r, n) => "  " ++ r.name ++ ": " ++ toString n ++ "\n"
  let entries := if s.entryPoints.isEmpty then ""
    else "  entry points: " ++ ", ".intercalate s.entryPoints ++ "\n"
  totals ++ String.join roles ++ entries

end Snapshot
end Dossier
