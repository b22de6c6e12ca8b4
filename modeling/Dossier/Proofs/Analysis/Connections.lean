import Dossier.Proofs.Analysis.Build
import Dossier.Proofs.ImportGraph
import Mathlib

/-!
# The connections of a snapshot

A snapshot keeps its import edges twice, by their sources and by their targets, and most of the
targets are no chunks at all. `Connected` says that the two sides agree all the same, edge by edge,
in what they show between chunks, and in number; and that what they show is what the extraction of
imports says of the files. Every snapshot of an analyzer is connected (`build_connected`). Both
sides come down to one fact, that the edges from a chunk are the targets of its own file
(`mem_targets_imports`).
-/

set_option autoImplicit false

namespace Dossier

/-- A graph without sources that have no targets, and without edges from an id to itself. -/
structure ImportGraph.Tidy (g : ImportGraph) : Prop where
  targets_ne_nil : ∀ source targets, (source, targets) ∈ g.toList → targets ≠ []
  irrefl : ∀ id, id ∉ g.targets id

namespace Analyzer

/-- That one of the imports that are extracted from a chunk may refer to another chunk. -/
def Imports (a : Analyzer) (c d : Chunk) : Prop :=
  c.id ≠ d.id ∧ a.followsImports = true ∧
    ∃ l, a.registry.forPath? c.id = some l ∧
      ∃ specifier ∈ l.imports c.content, d.id ∈ l.resolve c.id specifier

/-- That the two import graphs of a snapshot agree with each other and with its files. -/
structure Connected (a : Analyzer) (s : Snapshot) : Prop where
  converse : ∀ source target,
    target ∈ s.imports.targets source ↔ source ∈ s.importers.targets target
  tidy_imports : s.imports.Tidy
  tidy_importers : s.importers.Tidy
  /-- Whatever has imports is a chunk. -/
  sources : ∀ source targets, (source, targets) ∈ s.imports.toList → source ∈ s.chunks.ids
  importing : ∀ source target, source ∈ s.importers.targets target → source ∈ s.chunks.ids
  dependencies : ∀ c ∈ s.chunks.toList, ∀ d ∈ s.chunks.toList,
    d.id ∈ s.dependenciesOf c.id ↔ a.Imports c d
  dependents : ∀ c ∈ s.chunks.toList, ∀ d ∈ s.chunks.toList,
    c.id ∈ s.dependentsOf d.id ↔ a.Imports c d
  resolved : s.resolvedImports = (s.chunks.ids.map fun id => (s.dependenciesOf id).length).sum
  balanced : (s.chunks.ids.map fun id => (s.dependenciesOf id).length).sum =
    (s.chunks.ids.map fun id => (s.dependentsOf id).length).sum
  /-- What counts for the importance of a chunk are its dependents. -/
  degree : ∀ id, s.importers.outDegree id = (s.dependentsOf id).length

/-! ## The targets of a file -/

theorem mem_targetsOf {a : Analyzer} {path content target : String} :
    target ∈ a.targetsOf path content ↔
      path ≠ target ∧ a.followsImports = true ∧
        ∃ l, a.registry.forPath? path = some l ∧
          ∃ specifier ∈ l.imports content, target ∈ l.resolve path specifier := by
  unfold targetsOf importsOf
  cases h : a.registry.forPath? path with
  | none => simp
  | some l =>
    cases a.followsImports with
    | false => simp
    | true => simp [and_comm, @eq_comm _ path]

/-- The edges among chunks are the targets of each of them. -/
theorem mem_targets_importsAmong {a : Analyzer} {cs : List Chunk} {source target : String} :
    target ∈ (a.importsAmong cs).targets source ↔
      ∃ c ∈ cs, c.id = source ∧ target ∈ a.targetsOf c.filePath c.content := by
  have hfold : ∀ g : ImportGraph,
      target ∈ (cs.foldl (fun g c => g.addEdges c.id (a.targetsOf c.filePath c.content))
        g).targets source ↔
      (∃ c ∈ cs, c.id = source ∧ target ∈ a.targetsOf c.filePath c.content) ∨
        target ∈ g.targets source := by
    induction cs with
    | nil => simp
    | cons c cs ih =>
      intro g
      rw [List.foldl_cons, ih, ImportGraph.mem_targets_addEdges]
      simp only [List.mem_cons, exists_eq_or_imp, @eq_comm _ source]
      rw [or_left_comm, or_assoc]
  unfold importsAmong
  rw [hfold]
  simp [ImportGraph.not_mem_targets_empty]

theorem full_importsAmong (a : Analyzer) (cs : List Chunk) : (a.importsAmong cs).Full := by
  have hfold : ∀ g : ImportGraph, g.Full →
      (cs.foldl (fun g c => g.addEdges c.id (a.targetsOf c.filePath c.content)) g).Full := by
    induction cs with
    | nil => exact fun _ hg => hg
    | cons c cs ih => exact fun g hg => ih _ (hg.addEdges _ _)
  exact hfold .empty ImportGraph.full_empty

/-! ## The two graphs of a snapshot -/

section Snapshots

variable {a : Analyzer} {root : String} {files : List SourceFile}

/-- The edges from a chunk are the targets of its file, and there are no others. -/
theorem mem_targets_imports {c : Chunk} (hc : c ∈ (a.snapshotOf root files).chunks.toList)
    {target : String} : target ∈ (a.snapshotOf root files).imports.targets c.id ↔
      target ∈ a.targetsOf c.id c.content := by
  obtain ⟨g, hg⟩ := a.toList_chunks_snapshotOf root files
  rw [hg] at hc
  obtain ⟨d, hd, rfl⟩ := List.mem_map.mp hc
  have hpath : ∀ e ∈ a.chunksOf files, e.filePath = e.id := by
    intro e he
    obtain ⟨f, -, rfl⟩ := exists_of_mem_chunksOf he
    rfl
  show target ∈ (a.importsAmong (a.chunksOf files)).targets d.id ↔ _
  rw [mem_targets_importsAmong]
  constructor
  · rintro ⟨e, he, hid, htarget⟩
    -- Ids are distinct, so the edges are this chunk's own.
    obtain rfl := List.inj_on_of_nodup_map (Catalog.nodup_map_id _) he hd hid
    rwa [hpath e he] at htarget
  · intro htarget
    refine ⟨d, hd, rfl, ?_⟩
    rwa [hpath d hd]

theorem mem_ids_of_mem_targets {source target : String}
    (h : target ∈ (a.snapshotOf root files).imports.targets source) :
    source ∈ (a.snapshotOf root files).chunks.ids := by
  change target ∈ (a.importsAmong (a.chunksOf files)).targets source at h
  obtain ⟨c, hc, rfl, -⟩ := mem_targets_importsAmong.mp h
  rw [map_id_chunks_snapshotOf]
  exact List.mem_map_of_mem hc

theorem irrefl_imports (id : String) : id ∉ (a.snapshotOf root files).imports.targets id := by
  intro h
  have hid := mem_ids_of_mem_targets h
  rw [← Catalog.map_id_toList] at hid
  obtain ⟨c, hc, rfl⟩ := List.mem_map.mp hid
  exact (mem_targetsOf.mp ((mem_targets_imports hc).mp h)).1 rfl

end Snapshots
end Analyzer

namespace Snapshot

theorem mem_dependenciesOf {s : Snapshot} {id other : String} :
    other ∈ s.dependenciesOf id ↔ other ∈ s.imports.targets id ∧ other ∈ s.chunks.ids := by
  unfold dependenciesOf
  rw [List.mem_filter, Catalog.contains_iff, Catalog.mem_ids]

theorem mem_dependentsOf {s : Snapshot} {id other : String} :
    other ∈ s.dependentsOf id ↔ other ∈ s.importers.targets id ∧ other ∈ s.chunks.ids := by
  unfold dependentsOf
  rw [List.mem_filter, Catalog.contains_iff, Catalog.mem_ids]

/-- The import edges of a snapshot, as a relation between ids. -/
def Edge (s : Snapshot) (source target : String) : Prop := target ∈ s.imports.targets source

instance (s : Snapshot) (source target : String) : Decidable (s.Edge source target) :=
  inferInstanceAs (Decidable (_ ∈ _))

/-- The dependencies of a file are the chunks that edges lead to from it. -/
theorem length_dependenciesOf (s : Snapshot) (id : String) :
    (s.dependenciesOf id).length = (s.chunks.ids.toFinset.bipartiteAbove s.Edge id).card := by
  have hnodup : (s.dependenciesOf id).Nodup := (s.imports.nodup_targets id).filter _
  rw [← List.toFinset_card_of_nodup hnodup]
  congr 1
  ext other
  rw [List.mem_toFinset, Finset.mem_bipartiteAbove, List.mem_toFinset]
  exact mem_dependenciesOf.trans and_comm

section Converse

variable {s : Snapshot} (hconverse : ∀ source target,
  target ∈ s.imports.targets source ↔ source ∈ s.importers.targets target)
include hconverse

/-- The dependents of a file are the chunks that edges lead from to it. -/
theorem length_dependentsOf (id : String) :
    (s.dependentsOf id).length = (s.chunks.ids.toFinset.bipartiteBelow s.Edge id).card := by
  have hnodup : (s.dependentsOf id).Nodup := (s.importers.nodup_targets id).filter _
  rw [← List.toFinset_card_of_nodup hnodup]
  congr 1
  ext other
  rw [List.mem_toFinset, Finset.mem_bipartiteBelow, List.mem_toFinset]
  exact (mem_dependentsOf.trans and_comm).trans (and_congr_right' (hconverse other id).symm)

/-- Edges between chunks are as many by their sources as by their targets. -/
theorem sum_dependenciesOf_eq :
    (s.chunks.ids.map fun id => (s.dependenciesOf id).length).sum =
      (s.chunks.ids.map fun id => (s.dependentsOf id).length).sum := by
  simp only [s.length_dependenciesOf, length_dependentsOf hconverse]
  rw [← List.sum_toFinset _ s.chunks.nodup_ids, ← List.sum_toFinset _ s.chunks.nodup_ids]
  exact Finset.sum_card_bipartiteAbove_eq_sum_card_bipartiteBelow s.Edge

end Converse

end Snapshot

namespace Analyzer

/-- The snapshot of any files is connected. -/
theorem connected_snapshotOf (a : Analyzer) (root : String) (files : List SourceFile) :
    a.Connected (a.snapshotOf root files) := by
  have hconverse : ∀ source target,
      target ∈ (a.snapshotOf root files).imports.targets source ↔
        source ∈ (a.snapshotOf root files).importers.targets target :=
    fun _ _ => ImportGraph.mem_targets_converse.symm
  have hchunk : ∀ c ∈ (a.snapshotOf root files).chunks.toList,
      c.id ∈ (a.snapshotOf root files).chunks.ids := by
    intro c hc
    rw [← Catalog.map_id_toList]
    exact List.mem_map_of_mem hc
  have himports : ∀ c ∈ (a.snapshotOf root files).chunks.toList, ∀ d,
      d.id ∈ (a.snapshotOf root files).imports.targets c.id ↔ a.Imports c d :=
    fun c hc d => (mem_targets_imports hc).trans mem_targetsOf
  have himporting : ∀ source target,
      source ∈ (a.snapshotOf root files).importers.targets target →
        source ∈ (a.snapshotOf root files).chunks.ids :=
    fun source target h => mem_ids_of_mem_targets ((hconverse source target).mpr h)
  refine
    { converse := hconverse
      tidy_imports := ⟨fun _ _ => (full_importsAmong a _).ne_nil, irrefl_imports⟩
      tidy_importers := ⟨fun _ _ => (ImportGraph.full_converse _).ne_nil, fun id h =>
        irrefl_imports id ((hconverse id id).mpr h)⟩
      sources := ?_
      importing := himporting
      dependencies := ?_
      dependents := ?_
      resolved := ?_
      balanced := Snapshot.sum_dependenciesOf_eq hconverse
      degree := ?_ }
  · intro source targets h
    -- A source is listed with its targets, and one of them is enough to find its chunk.
    have hne := (full_importsAmong a _).ne_nil h
    obtain ⟨target, rest, rfl⟩ := List.exists_cons_of_ne_nil hne
    have htargets := ImportGraph.targets_of_mem_toList h
    exact mem_ids_of_mem_targets (htargets ▸ List.mem_cons_self ..)
  · intro c hc d hd
    rw [Snapshot.mem_dependenciesOf, himports c hc d]
    exact and_iff_left (hchunk d hd)
  · intro c hc d hd
    rw [Snapshot.mem_dependentsOf, ← hconverse, himports c hc d]
    exact and_iff_left (hchunk c hc)
  · rw [List.sum_eq_foldl, List.foldl_map]
    rfl
  · intro id
    rw [ImportGraph.outDegree_eq]
    -- All that import something are chunks, so none of them is left out.
    have hall : (a.snapshotOf root files).dependentsOf id =
        (a.snapshotOf root files).importers.targets id := by
      refine List.filter_eq_self.mpr fun source hsource => ?_
      exact Catalog.contains_iff.mpr (Catalog.mem_ids.mp (himporting source id hsource))
    rw [hall]

/-- **Whatever an analyzer makes of a tree is connected.** -/
theorem build_connected (a : Analyzer) (l : Located) {s : Snapshot} (hs : a.build l = .ok s) :
    a.Connected s := by
  obtain ⟨access, entries, files, -, -, -, rfl⟩ := build_eq_ok_iff.mp hs
  exact a.connected_snapshotOf l.path files

/-- Two modules of which the first imports the second. -/
def samplePair : List (FileName × Node) :=
  [(.text "a.py", .file {} "from .b import c".toUTF8), (.text "b.py", .file {} "c = 1".toUTF8)]

/-- The files of the two modules. -/
def sampleFiles : List SourceFile := [⟨"a.py", "from .b import c"⟩, ⟨"b.py", "c = 1"⟩]

theorem unambiguous_sampleFiles : Unambiguous sampleFiles := by
  unfold Unambiguous
  decide

/-- The analyzer of Python that keeps nothing out. -/
def pythonAnalyzer : Analyzer :=
  .ofSettings { includeGlobs := ["**/*.py"], excludeGlobs := [], maxFileSize := 100 }

theorem filesIn_samplePair : pythonAnalyzer.filesIn "/repo" {} samplePair = .ok sampleFiles := by
  have hincludes : ∀ path, pythonAnalyzer.includes path = (Glob.ofString "**/*.py").accepts path :=
    fun _ => Bool.or_false _
  have ha : pythonAnalyzer.includes "a.py" = true := by
    rw [hincludes]
    cbv
  have hb : pythonAnalyzer.includes "b.py" = true := by
    rw [hincludes]
    cbv
  have hkept : pythonAnalyzer.keptIn ⟨"", {}, samplePair⟩ =
      [("a.py", .file {} "from .b import c".toUTF8), ("b.py", .file {} "c = 1".toUTF8)] := by
    have hout : ∀ path, pythonAnalyzer.excludes path = false := fun _ => rfl
    unfold keptIn Node.textEntries
    simp [samplePair, Node.textEntry?, hout, Path.join, List.mergeSort]
  unfold filesIn
  rw [discover, hkept]
  simp only [List.filterMap_cons, List.filterMap_nil, directoryAt?, List.nil_append, discover]
  simp only [fileAt?, ha, hb, Option.isNone_none, Bool.and_self, if_true]
  rfl

theorem build_samplePair : pythonAnalyzer.build ⟨"/repo", .directory {} samplePair⟩ =
    .ok (pythonAnalyzer.snapshotOf "/repo" sampleFiles) :=
  build_directory rfl filesIn_samplePair

/-- The import of the pair is seen from both of its ends. -/
theorem build_connected_samplePair :
    ∃ s, pythonAnalyzer.build ⟨"/repo", .directory {} samplePair⟩ = .ok s ∧
      "b.py" ∈ s.dependenciesOf "a.py" ∧ "a.py" ∈ s.dependentsOf "b.py" := by
  have hconnected := build_connected pythonAnalyzer ⟨"/repo", .directory {} samplePair⟩
    build_samplePair
  have hchunk : ∀ f ∈ sampleFiles, ∃ c ∈
      (pythonAnalyzer.snapshotOf "/repo" sampleFiles).chunks.toList,
        c.id = f.path ∧ c.content = f.content := by
    intro f hf
    obtain ⟨c, hc, hown⟩ := exists_mem_chunks_snapshotOf "/repo" unambiguous_sampleFiles hf
    exact ⟨c, hc, congrArg Chunk.id hown, congrArg Chunk.content hown⟩
  obtain ⟨c, hc, hcid, hcontent⟩ := hchunk ⟨"a.py", "from .b import c"⟩ (by decide)
  obtain ⟨d, hd, hdid, -⟩ := hchunk ⟨"b.py", "c = 1"⟩ (by decide)
  have himports : pythonAnalyzer.Imports c d := by
    unfold Imports
    rw [hcid, hcontent, hdid]
    have hpython : Registry.standard.forPath? "a.py" = some .python := by cbv
    have himports : Language.python.imports "from .b import c" = [".b"] := by cbv
    have hresolve : Language.python.resolve "a.py" ".b" = ["b.py", "b/__init__.py"] := by cbv
    exact ⟨by decide, rfl, .python, hpython, ".b", by rw [himports]; simp, by rw [hresolve]; simp⟩
  have hdependency := (hconnected.dependencies c hc d hd).mpr himports
  have hdependent := (hconnected.dependents c hc d hd).mpr himports
  rw [hcid, hdid] at hdependency hdependent
  exact ⟨_, build_samplePair, hdependency, hdependent⟩

end Analyzer
end Dossier
