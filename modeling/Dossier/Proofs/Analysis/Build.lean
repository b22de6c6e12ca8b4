import Dossier.Analysis.Build
import Dossier.Proofs.Analysis.Discovery
import Dossier.Proofs.Catalog

/-!
# What a snapshot keeps of its files

A snapshot is made in one pass over the catalog of the files' chunks, so the order in which the
files come does not show in it. Where no two of them contend for a path (`Unambiguous`), every file
has its chunk. The chunks are the files' own up to their importance (`toList_chunks_snapshotOf`),
which is the one thing that connections change.
-/

set_option autoImplicit false

namespace Dossier

/-- Connections change nothing but the importance of a chunk. -/
theorem Connectivity.raiseAll_eq_map (importers : ImportGraph) (cs : List Chunk) :
    ∃ g : Chunk → Float,
      raiseAll importers cs = cs.map fun c => { c with importance := g c } := by
  unfold raiseAll
  dsimp only
  split
  · exact ⟨fun c => c.importance, by simp⟩
  · exact ⟨fun c => (raise importers _ c).importance, rfl⟩

namespace Analyzer

/-- That no path is the path of two files with different contents. -/
def Unambiguous (files : List SourceFile) : Prop :=
  ∀ f ∈ files, ∀ g ∈ files, f.path = g.path → f = g

theorem ordered_chunksOf (a : Analyzer) (files : List SourceFile) :
    (a.chunksOf files).Pairwise fun c d => compare c.id d.id = .lt :=
  Catalog.ordered_toList _

/-- A chunk of files is the chunk of one of them. -/
theorem exists_of_mem_chunksOf {a : Analyzer} {files : List SourceFile} {c : Chunk}
    (hc : c ∈ a.chunksOf files) : ∃ f ∈ files, a.chunkOf f.path f.content = c :=
  List.mem_map.mp (Catalog.mem_of_mem_toList_ofList hc)

/-- Where files do not contend for a path, each of them has its chunk. -/
theorem mem_chunksOf {a : Analyzer} {files : List SourceFile} (hfiles : Unambiguous files)
    {c : Chunk} : c ∈ a.chunksOf files ↔ ∃ f ∈ files, a.chunkOf f.path f.content = c := by
  unfold chunksOf
  rw [Catalog.mem_toList_ofList, List.mem_map]
  intro c hc d hd hid
  obtain ⟨f, hf, rfl⟩ := List.mem_map.mp hc
  obtain ⟨g, hg, rfl⟩ := List.mem_map.mp hd
  rw [hfiles f hf g hg hid]

/-- The chunks of a snapshot are those of the files, up to their importance. -/
theorem toList_chunks_snapshotOf (a : Analyzer) (root : String) (files : List SourceFile) :
    ∃ g : Chunk → Float, (a.snapshotOf root files).chunks.toList =
      (a.chunksOf files).map fun c => { c with importance := g c } := by
  obtain ⟨g, hg⟩ := Connectivity.raiseAll_eq_map (a.importsAmong (a.chunksOf files)).converse
    (a.chunksOf files)
  refine ⟨g, ?_⟩
  unfold snapshotOf
  dsimp only
  rw [hg, Catalog.toList_ofList]
  exact List.pairwise_map.mpr (a.ordered_chunksOf files)

theorem map_id_chunks_snapshotOf (a : Analyzer) (root : String) (files : List SourceFile) :
    (a.snapshotOf root files).chunks.ids = (a.chunksOf files).map (·.id) := by
  obtain ⟨g, hg⟩ := a.toList_chunks_snapshotOf root files
  rw [← Catalog.map_id_toList, hg, List.map_map]
  rfl

/-- A chunk of a snapshot is the chunk of a file with another importance. -/
theorem exists_of_mem_chunks_snapshotOf {a : Analyzer} {root : String} {files : List SourceFile}
    {c : Chunk} (hc : c ∈ (a.snapshotOf root files).chunks.toList) :
    ∃ f ∈ files, c = { a.chunkOf f.path f.content with importance := c.importance } := by
  obtain ⟨g, hg⟩ := a.toList_chunks_snapshotOf root files
  rw [hg] at hc
  obtain ⟨d, hd, rfl⟩ := List.mem_map.mp hc
  obtain ⟨f, hf, rfl⟩ := exists_of_mem_chunksOf hd
  exact ⟨f, hf, rfl⟩

/-- Every file has its chunk in the snapshot. -/
theorem exists_mem_chunks_snapshotOf {a : Analyzer} (root : String) {files : List SourceFile}
    (hfiles : Unambiguous files) {f : SourceFile} (hf : f ∈ files) :
    ∃ c ∈ (a.snapshotOf root files).chunks.toList,
      c = { a.chunkOf f.path f.content with importance := c.importance } := by
  obtain ⟨g, hg⟩ := a.toList_chunks_snapshotOf root files
  rw [hg]
  exact ⟨_, List.mem_map.mpr ⟨_, (mem_chunksOf hfiles).mpr ⟨f, hf, rfl⟩, rfl⟩, rfl⟩

/-! ## Results -/

/-- There is a snapshot of a directory whose facts are told and whose files are found: the one that
is made of these files. -/
theorem build_eq_ok_iff {a : Analyzer} {l : Located} {s : Snapshot} : a.build l = .ok s ↔
    ∃ access entries files, l.node = .directory access entries ∧ access.facts = none ∧
      a.filesIn l.path access entries = .ok files ∧ a.snapshotOf l.path files = s := by
  obtain ⟨path, n⟩ := l
  unfold build
  cases n with
  | file access bytes => cases hfacts : access.facts <;> simp [Node.access, hfacts]
  | link target => simp [Node.access]
  | directory access entries =>
    cases hfacts : access.facts <;> simp [Node.access, hfacts, map_eq_ok_iff]

/-- The snapshot of a directory of which nothing is refused. -/
theorem build_directory {a : Analyzer} {path : String} {access : Access}
    {entries : List (FileName × Node)} {files : List SourceFile} (hfacts : access.facts = none)
    (hfiles : a.filesIn path access entries = .ok files) :
    a.build ⟨path, .directory access entries⟩ = .ok (a.snapshotOf path files) :=
  build_eq_ok_iff.mpr ⟨access, entries, files, rfl, hfacts, hfiles, rfl⟩

/-- An empty directory has a snapshot without files. -/
theorem build_emptyDirectory (a : Analyzer) (path : String) :
    a.build ⟨path, .emptyDirectory⟩ = .ok (a.snapshotOf path []) := by
  refine build_directory rfl ?_
  have hkept : a.keptIn ⟨"", {}, []⟩ = [] := by simp [keptIn, Node.textEntries]
  unfold filesIn
  rw [discover_cons, directoriesOf, filesOf, hkept]
  simp only [List.filterMap_nil, List.append_nil, discover]
  rfl

/-- A directory that cannot be listed itself has none. -/
theorem build_of_unlisted {a : Analyzer} {path : String} {access : Access}
    {entries : List (FileName × Node)} {fault : Fault} (hfacts : access.facts = none)
    (hfault : access.contents = some fault) :
    a.build ⟨path, .directory access entries⟩ = .error (.walk path fault) := by
  have hfiles : a.filesIn path access entries = .error (.walk path fault) := by
    unfold filesIn
    rw [discover_cons, hfault]
    rfl
  unfold build
  simp only [Node.access, hfacts, hfiles, Except.map]

end Analyzer
end Dossier
