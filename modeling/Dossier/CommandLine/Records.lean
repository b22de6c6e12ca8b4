import Dossier.Json.Value
import Dossier.Search.Ranking
import Dossier.Selection.Expansion
import Dossier.Snapshot

/-!
# Records

What the commands answer to other programs, as JSON values.
-/

set_option autoImplicit false

namespace Dossier

/-- A chunk with its content. -/
def Chunk.record (c : Chunk) : Json := .object [
  ("id", .string c.id),
  ("file_path", .string c.filePath),
  ("content", .string c.content),
  ("token_count", .word c.tokens),
  ("importance", .number c.importance),
  ("type", .string c.role.name),
  ("symbols", .strings c.symbols),
  ("dependencies", .strings c.dependencies)]

/-- A graph as the targets of each source. -/
def ImportGraph.record (g : ImportGraph) : Json :=
  .object (g.toList.map fun (source, targets) => (source, .strings targets))

/-- A snapshot with its chunks by id. -/
def Snapshot.record (s : Snapshot) : Json := .object [
  ("root", .string s.root),
  ("chunks", .object (s.chunks.toList.map fun c => (c.id, c.record))),
  ("entry_points", .strings s.entryPoints),
  ("core_modules", .strings s.coreModules),
  ("dependency_graph", s.imports.record),
  ("reverse_dependency_graph", s.importers.record),
  ("total_tokens", .natural s.totalTokens)]

/-- A selection with its numbers. -/
def Selection.record (s : Selection) : Json := .object [
  ("chunks", .array (s.chunks.map Chunk.record)),
  ("total_tokens", .word s.totalTokens),
  ("remaining_tokens", .word s.remainingTokens),
  ("excluded", .strings s.excluded),
  ("stats", .object [
    ("files_considered", .natural s.filesConsidered),
    ("files_selected", .natural s.filesSelected),
    ("coverage_percent", .number s.coveragePercent),
    ("average_importance", .number s.averageImportance)])]

/-- A found chunk with its score. -/
def ScoredChunk.record (h : ScoredChunk) : Json :=
  .object [("chunk", h.chunk.record), ("score", .number h.score)]

/-- An expansion. -/
def Expansion.record (e : Expansion) : Json := .object [
  ("added", .array (e.added.map Chunk.record)),
  ("tokens_added", .word e.tokensAdded),
  ("excluded", .strings e.excluded)]

end Dossier
