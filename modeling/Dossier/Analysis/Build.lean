import Dossier.Analysis.Connectivity
import Dossier.Analysis.Discovery
import Dossier.FileSystem.Locate
import Std.Data.TreeSet

/-!
# Building snapshots

A snapshot of a directory: a chunk for each of its files that count, the import graph with its
converse, and what follows from these.
-/

set_option autoImplicit false

namespace Dossier.Analyzer

/-- The edges from chunks to what the imports of their files may refer to. -/
def importsAmong (a : Analyzer) (cs : List Chunk) : ImportGraph :=
  cs.foldl (fun g c => g.addEdges c.id (a.targetsOf c.filePath c.content)) .empty

/-- The chunks of files before their connections count, in ascending order of their ids. -/
def chunksOf (a : Analyzer) (files : List SourceFile) : List Chunk :=
  (Catalog.ofList (files.map fun f => a.chunkOf f.path f.content)).toList

def snapshotOf (a : Analyzer) (root : String) (files : List SourceFile) : Snapshot :=
  -- From here on the order in which the files were found is gone.
  let chunks := a.chunksOf files
  let imports := a.importsAmong chunks
  let importers := imports.converse
  let raised := Connectivity.raiseAll importers chunks
  { root
    chunks := .ofList raised
    entryPoints := (raised.filter (·.role == .entryPoint)).map (·.id)
    coreModules :=
      (Std.TreeSet.ofList ((raised.filter (·.role == .coreModule)).map (·.directory))).toList
    imports
    importers
    totalTokens := raised.foldl (fun n c => n + c.tokens.toNat) 0 }

/-- The snapshot of what a path leads to: a directory whose facts are told, and all of which that is
not kept out can be listed. -/
def build (a : Analyzer) (l : Located) : Except AnalysisError Snapshot :=
  match l.node.access.facts with
  | some fault => .error (.root l.path fault)
  | none =>
    match l.node with
    | .directory access entries => (a.filesIn l.path access entries).map (a.snapshotOf l.path)
    | _ => .error (.notDirectory l.path)

end Dossier.Analyzer
