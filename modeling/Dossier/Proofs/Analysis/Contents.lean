import Dossier.Proofs.Analysis.Alike
import Dossier.Proofs.Analysis.Build
import Mathlib

/-!
# What a snapshot says of a tree

The walk, the catalog and the connections together: a snapshot `Reflects` a tree when its chunks are
those of the files that count, each once and under its path. A snapshot of a proper directory is
always such a one (`build_reflects`), and there is one when the directories that come up can all be
listed; otherwise the error names one that cannot (`refused_of_build_error`). What comes out is the
same for all trees that are alike (`build_of_alike`), so for every listing of the same tree and
whatever is below what is kept out.
-/

set_option autoImplicit false

namespace Dossier.Analyzer

/-- That the chunks of a snapshot are those of the files of a tree that count. -/
structure Reflects (a : Analyzer) (t : Node) (s : Snapshot) : Prop where
  ids : ∀ id, id ∈ s.chunks.ids ↔
    ∃ names content, id = "/".intercalate names ∧ a.Counts t names content
  /-- Among the chunks there is one with the file's path, and it is stored under this path. -/
  chunk : ∀ names content, a.Counts t names content →
    ∃ c, (s.chunks.toList.filter fun d => d.filePath = "/".intercalate names) = [c] ∧
      c.id = "/".intercalate names ∧ c.content = content
  /-- No two files share a path. -/
  distinct : ∀ names others content other, a.Counts t names content → a.Counts t others other →
    "/".intercalate names = "/".intercalate others → names = others

/-- That analyzing a tree, with or without success, does not depend on its listings, nor on what is
kept out of it. -/
structure Steady (a : Analyzer) (path : String) (t : Node) : Prop where
  relisted : ∀ u, t.Relisted u → a.build ⟨path, u⟩ = a.build ⟨path, t⟩
  /-- A tree may differ in any number of places that are kept out, and in its listings as well. -/
  alike : ∀ u, u.Proper → a.Alike "" t u → a.build ⟨path, u⟩ = a.build ⟨path, t⟩
  /-- Adding or changing something, at or below a place that is kept out. -/
  replaced : ∀ way rest new, way ≠ [] → (t.at? (textNames way)).isSome →
    a.excludes ("/".intercalate way) = true → new.Proper → (∀ name ∈ rest, name.IsProper) →
      a.build ⟨path, t.replace (textNames way ++ rest) new⟩ = a.build ⟨path, t⟩
  removed : ∀ way rest u, way ≠ [] → a.excludes ("/".intercalate way) = true →
    t.remove? (textNames way ++ rest) = some u → a.build ⟨path, u⟩ = a.build ⟨path, t⟩

/-- Why there is no snapshot of a tree. -/
inductive Refused (a : Analyzer) (path : String) (t : Node) : AnalysisError → Prop where
  | facts {fault : Fault} (h : t.access.facts = some fault) : Refused a path t (.root path fault)
  | notDirectory (h : t.isDirectory = false) : Refused a path t (.notDirectory path)
  | walk {names : List String} {access : Access} {es : List (FileName × Node)} {fault : Fault}
      (hat : t.at? (textNames names) = some (.directory access es)) (hclear : a.Clear t names)
      (hfault : access.contents = some fault) :
      Refused a path t (.walk (Path.below path ("/".intercalate names)) fault)

/-! ## One file for a path -/

theorem Counts.isName {a : Analyzer} {t : Node} (ht : t.Proper) {names : List String}
    {content : String} (h : a.Counts t names content) : ∀ name ∈ names, Path.IsName name := by
  obtain ⟨access, bytes, hat, -⟩ := h.held
  exact ht.isName_of_at? hat

/-- There is one text in a place of a tree. -/
theorem Counts.content_eq {a : Analyzer} {t : Node} {names : List String} {content other : String}
    (h : a.Counts t names content) (hother : a.Counts t names other) : content = other := by
  obtain ⟨access, bytes, hat, -, -, -, hcontent⟩ := h.held
  obtain ⟨_, held, hheld, -, -, -, hcontent'⟩ := hother.held
  rw [hat] at hheld
  cases hheld
  exact Option.some.inj (hcontent.symm.trans hcontent')

theorem Counts.names_eq {a : Analyzer} {t : Node} (ht : t.Proper) {names others : List String}
    {content other : String} (h : a.Counts t names content) (hother : a.Counts t others other)
    (hpath : "/".intercalate names = "/".intercalate others) : names = others :=
  Path.intercalate_injective (h.isName ht) (hother.isName ht) hpath

theorem unambiguous_filesIn {a : Analyzer} {root : String} {access : Access}
    {entries : List (FileName × Node)} (hproper : (Node.directory access entries).Proper)
    {files : List SourceFile} (hfiles : a.filesIn root access entries = .ok files) :
    Unambiguous files := by
  rintro ⟨path, content⟩ hf ⟨other, text⟩ hg hpath
  obtain ⟨names, rfl, hcounts⟩ := (mem_filesIn hproper hfiles).mp hf
  obtain ⟨others, rfl, hothers⟩ := (mem_filesIn hproper hfiles).mp hg
  obtain rfl := hcounts.names_eq hproper hothers hpath
  rw [hcounts.content_eq hothers]

/-! ## Snapshots -/

/-- **Trees that are alike have the same snapshot, or none for the same reason.** -/
theorem build_of_alike {a : Analyzer} (path : String) {t u : Node} (ht : t.Proper) (hu : u.Proper)
    (h : a.Alike "" t u) : a.build ⟨path, u⟩ = a.build ⟨path, t⟩ := by
  unfold build
  dsimp only
  rw [← h.access_eq]
  cases h with
  | file | link => rfl
  | directory access hnames hentries =>
    dsimp only
    rw [filesIn_congr path ht hu (.directory access hnames hentries)]

theorem steady (a : Analyzer) (path : String) {t : Node} (ht : t.Proper) : a.Steady path t := by
  have hjoin : ∀ way : List String, (∀ name ∈ way, Path.IsName name) →
      way.foldl Path.join "" = "/".intercalate way := fun way hway =>
    Path.foldl_join_intercalate (List.forall_mem_nil _) hway
  refine { relisted := ?_, alike := ?_, replaced := ?_, removed := ?_ }
  · intro u hu
    exact build_of_alike path ht (hu.proper ht) (.of_relisted hu "")
  · intro u hu halike
    exact build_of_alike path ht hu halike
  · intro way rest new hne hthere hout hnew hrest
    obtain ⟨m, hm⟩ := Option.isSome_iff_exists.mp hthere
    have hnames : ∀ name ∈ textNames way ++ rest, name.IsProper :=
      List.forall_mem_append.mpr ⟨ht.names_of_at? hm, hrest⟩
    rw [← hjoin way (ht.isName_of_at? hm)] at hout
    exact build_of_alike path ht (ht.replace hnew hnames) (alike_replace ht hne hthere hout new)
  · intro way rest u hne hout hu
    have hway : ∀ name ∈ way, Path.IsName name := fun name hname =>
      ht.names_of_remove? hu (.text name) (List.mem_append_left _ (List.mem_map_of_mem hname))
    rw [← hjoin way hway] at hout
    exact build_of_alike path ht (ht.remove hu) (alike_remove ht hne hout hu)

/-- The snapshot of a directory reflects it. -/
theorem reflects_snapshotOf {a : Analyzer} (path : String) {access : Access}
    {entries : List (FileName × Node)} (hproper : (Node.directory access entries).Proper)
    {files : List SourceFile} (h : a.filesIn path access entries = .ok files) :
    a.Reflects (.directory access entries) (a.snapshotOf path files) := by
  have hfiles := unambiguous_filesIn hproper h
  refine { ids := fun id => ?_, chunk := ?_, distinct := ?_ }
  · rw [map_id_chunks_snapshotOf, List.mem_map]
    constructor
    · rintro ⟨c, hc, rfl⟩
      obtain ⟨⟨_, content⟩, hf, rfl⟩ := (mem_chunksOf hfiles).mp hc
      obtain ⟨names, rfl, hcounts⟩ := (mem_filesIn hproper h).mp hf
      exact ⟨names, content, rfl, hcounts⟩
    · rintro ⟨names, content, rfl, hcounts⟩
      have hf := (mem_filesIn hproper h).mpr ⟨names, rfl, hcounts⟩
      exact ⟨_, (mem_chunksOf hfiles).mpr ⟨_, hf, rfl⟩, rfl⟩
  · -- The chunk of the file is in the catalog, and the catalog has every id once.
    intro names content hcounts
    obtain ⟨c, hc, heq⟩ := exists_mem_chunks_snapshotOf path hfiles
      ((mem_filesIn hproper h).mpr ⟨names, rfl, hcounts⟩)
    have hid : c.id = "/".intercalate names := by rw [heq]; rfl
    refine ⟨c, ?_, hid, by rw [heq]; rfl⟩
    rw [← hid, ← Catalog.filter_toList hc]
    refine List.filter_congr fun d hd => ?_
    obtain ⟨f, -, hown⟩ := exists_of_mem_chunks_snapshotOf hd
    have hpath : d.filePath = d.id := by rw [hown]; rfl
    rw [hpath]
  · intro names others content other hcounts hothers hpath
    exact hcounts.names_eq hproper hothers hpath

theorem reflects_of_build {a : Analyzer} {path : String} {t : Node} (ht : t.Proper) {s : Snapshot}
    (hs : a.build ⟨path, t⟩ = .ok s) : a.Reflects t s := by
  obtain ⟨access, entries, files, hnode, -, hfiles, rfl⟩ := build_eq_ok_iff.mp hs
  obtain rfl : t = .directory access entries := hnode
  exact reflects_snapshotOf path ht hfiles

/-- An analysis that fails says what is refused, and of which directory. -/
theorem refused_of_build_error {a : Analyzer} {path : String} {t : Node} (ht : t.Proper)
    {err : AnalysisError} (h : a.build ⟨path, t⟩ = .error err) : a.Refused path t err := by
  unfold build at h
  dsimp only at h
  split at h
  · next fault hfault =>
    cases h
    exact .facts hfault
  · cases t with
    | file | link =>
      cases h
      exact .notDirectory rfl
    | directory access entries =>
      obtain ⟨names, told, es, fault, hat, hclear, hfault, rfl⟩ :=
        of_filesIn_error ht (map_eq_error_iff.mp h)
      exact .walk hat hclear hfault

/-- There is a snapshot of a directory whose facts are told and all of which can be listed. -/
theorem exists_build_iff {a : Analyzer} {path : String} {t : Node} (ht : t.Proper) :
    (∃ s, a.build ⟨path, t⟩ = .ok s) ↔
      t.isDirectory = true ∧ t.access.facts = none ∧ a.Listable t := by
  simp only [build_eq_ok_iff]
  constructor
  · rintro ⟨s, access, entries, files, rfl, hfacts, hfiles, -⟩
    exact ⟨rfl, hfacts, (exists_filesIn_iff ht).mp ⟨files, hfiles⟩⟩
  · rintro ⟨hdirectory, hfacts, hlistable⟩
    cases t with
    | file | link => cases hdirectory
    | directory access entries =>
      obtain ⟨files, hfiles⟩ : ∃ files, a.filesIn path access entries = .ok files :=
        (exists_filesIn_iff ht).mpr hlistable
      exact ⟨_, access, entries, files, rfl, hfacts, hfiles, rfl⟩

/--
**A snapshot of a proper tree reflects it, and is steady.** There is one for every directory whose
facts are told and all of which, as far as it comes up, can be listed; for anything else the error
says what is refused.
-/
theorem build_reflects (a : Analyzer) (path : String) {t : Node} (ht : t.Proper) :
    ((∃ s, a.build ⟨path, t⟩ = .ok s) ↔
        t.isDirectory = true ∧ t.access.facts = none ∧ a.Listable t) ∧
      (∀ s, a.build ⟨path, t⟩ = .ok s → a.Reflects t s) ∧
      (∀ err, a.build ⟨path, t⟩ = .error err → a.Refused path t err) ∧ a.Steady path t := by
  exact ⟨exists_build_iff ht, fun s => reflects_of_build ht, fun err => refused_of_build_error ht,
    steady a path ht⟩

/-- A library beside something that is made from it. One of its files may not be read. -/
def sampleTree : Node :=
  .directory {}
    [(.text "lib", .directory {}
        [(.text "a.py", .file {} "import b".toUTF8),
          (.text "c.py", .file { contents := some .denied } "z = 3".toUTF8)]),
      (.text "gen", .directory {} [(.text "b.py", .file {} "x = 1".toUTF8)])]

/-- The analyzer of Python that keeps out what is made. -/
def sampleAnalyzer : Analyzer :=
  .ofSettings { includeGlobs := ["**/*.py"], excludeGlobs := ["gen/**"], maxFileSize := 100 }

theorem excludes_sampleAnalyzer (path : String) :
    sampleAnalyzer.excludes path = (Glob.ofString "gen/**").accepts path := Bool.or_false _

theorem includes_sampleAnalyzer (path : String) :
    sampleAnalyzer.includes path = (Glob.ofString "**/*.py").accepts path := Bool.or_false _

theorem proper_sampleTree : sampleTree.Proper := by
  refine .directory _ (by decide) (by decide) ?_
  simp only [List.forall_mem_cons, List.not_mem_nil, false_imp_iff, implies_true, and_true]
  constructor
  · refine .directory _ (by decide) (by decide) ?_
    simp only [List.forall_mem_cons, List.not_mem_nil, false_imp_iff, implies_true, and_true]
    exact ⟨.file _ _, .file _ _⟩
  · exact .directory _ (by decide) (by decide) (by simpa using .file _ _)

theorem open_sampleTree : Open sampleTree := by
  refine .directory rfl ?_
  simp only [List.forall_mem_cons, List.not_mem_nil, false_imp_iff, implies_true, and_true]
  constructor
  · refine .directory rfl ?_
    simp only [List.forall_mem_cons, List.not_mem_nil, false_imp_iff, implies_true, and_true]
    exact ⟨.file _ _, .file _ _⟩
  · exact .directory rfl (by simpa using .file _ _)

/-- Nothing keeps the walk from a file of the library that is not kept out itself. -/
theorem clear_sampleTree {name : String}
    (hkept : sampleAnalyzer.excludes ("/".intercalate ["lib", name]) = false)
    (htold : ∀ n, sampleTree.at? (textNames ["lib", name]) = some n → n.access.kind = none) :
    sampleAnalyzer.Clear sampleTree ["lib", name] := by
  have hlib : sampleAnalyzer.Clear sampleTree ([] ++ ["lib"]) := by
    refine clear_concat.mpr ⟨clear_nil _ _, ?_, fun n hn => by cases hn; rfl⟩
    rw [excludes_sampleAnalyzer]
    cbv
  exact clear_concat.mpr ⟨hlib, hkept, htold⟩

/-- The file that may not be read has no chunk. -/
theorem notMem_sampleTree {s : Snapshot}
    (hs : sampleAnalyzer.build ⟨"/repo", sampleTree⟩ = .ok s) : "lib/c.py" ∉ s.chunks.ids := by
  intro hmem
  have hreflects := reflects_of_build proper_sampleTree hs
  obtain ⟨names, content, hpath, hcounts⟩ := (hreflects.ids _).mp hmem
  obtain rfl : ["lib", "c.py"] = names := Path.intercalate_injective (by decide)
    (hcounts.isName proper_sampleTree) (by rw [← hpath]; decide)
  obtain ⟨access, bytes, hat, -, hread, -⟩ := hcounts.held
  cases hat
  cases hread

/-- The library has a chunk for the file that may be read, and what is made from it may change. -/
theorem build_reflects_sampleTree :
    sampleTree.Proper ∧ ∃ s, sampleAnalyzer.build ⟨"/repo", sampleTree⟩ = .ok s ∧
      "lib/a.py" ∈ s.chunks.ids ∧ "lib/c.py" ∉ s.chunks.ids ∧
      sampleAnalyzer.build
        ⟨"/repo", sampleTree.replace [.text "gen", .text "c.py"] (.file {} "y = 2".toUTF8)⟩ =
          .ok s := by
  obtain ⟨hbuild, hreflects, -, hsteady⟩ :=
    build_reflects sampleAnalyzer "/repo" proper_sampleTree
  obtain ⟨s, hs⟩ := hbuild.mpr ⟨rfl, rfl, open_sampleTree.listable _⟩
  have hout : sampleAnalyzer.excludes "gen" = true := by
    rw [excludes_sampleAnalyzer]
    cbv
  refine ⟨proper_sampleTree, s, hs, ?_, notMem_sampleTree hs, ?_⟩
  · have hasked : sampleAnalyzer.includes "lib/a.py" = true := by
      rw [includes_sampleAnalyzer]
      cbv
    have hclear : sampleAnalyzer.Clear sampleTree ["lib", "a.py"] := by
      refine clear_sampleTree ?_ fun n hn => by cases hn; rfl
      rw [excludes_sampleAnalyzer]
      cbv
    refine ((hreflects s hs).ids _).mpr ⟨["lib", "a.py"], "import b", by decide, ?_⟩
    refine ⟨⟨{}, "import b".toUTF8, rfl, rfl, rfl, by decide, rfl⟩, ?_, ?_,
      includes_eq_true.mp hasked⟩
    · exact fun way hne hway => (hclear way hne hway).2
    · exact fun way hne hway => excludes_eq_false.mp (hclear way hne hway).1
  · rw [← hs]
    exact hsteady.replaced ["gen"] [.text "c.py"] _ (by decide) (by decide) hout (.file _ _)
      (by decide)

/-- That a file holds text, is not too large, not kept out and asked for is not enough to make it a
chunk. -/
theorem not_every_text_reflected :
    ¬ ∀ (a : Analyzer) (path : String) (t : Node) (s : Snapshot), t.Proper →
      a.build ⟨path, t⟩ = .ok s → ∀ names access bytes content,
        t.at? (textNames names) = some (.file access bytes) → bytes.size ≤ a.maxFileSize →
        String.fromUTF8? bytes = some content →
        (∀ way, way ≠ [] → way <+: names →
          ∀ g ∈ a.excludeGlobs, g.accepts ("/".intercalate way) = false) →
        (∃ g ∈ a.includeGlobs, g.accepts ("/".intercalate names) = true) →
          "/".intercalate names ∈ s.chunks.ids := by
  intro h
  obtain ⟨s, hs⟩ : ∃ s, sampleAnalyzer.build ⟨"/repo", sampleTree⟩ = .ok s :=
    (exists_build_iff proper_sampleTree).mpr ⟨rfl, rfl, open_sampleTree.listable _⟩
  refine notMem_sampleTree hs (h sampleAnalyzer "/repo" sampleTree s proper_sampleTree hs
    ["lib", "c.py"] _ "z = 3".toUTF8 "z = 3" rfl (by decide) rfl ?_ ?_)
  · intro way hne hway
    have hclear : sampleAnalyzer.Clear sampleTree ["lib", "c.py"] := by
      refine clear_sampleTree ?_ fun n hn => by cases hn; rfl
      rw [excludes_sampleAnalyzer]
      cbv
    exact excludes_eq_false.mp (hclear way hne hway).1
  · refine includes_eq_true.mp ?_
    rw [includes_sampleAnalyzer]
    cbv

end Dossier.Analyzer
