import Dossier.Analysis.Discovery
import Dossier.Proofs.FileSystem.Tree
import Mathlib.Data.List.Induction

/-!
# What the walk finds

The walk goes through a list of pending directories, and puts in front of it what it finds in the
first of them. Three descriptions of it lead away from that. `Reached` are the directories that come
up: the walk ends well when all of them can be listed, and then it has found their files
(`of_discover_ok`). In a proper tree the names that lead to a place tell whether it comes up: all
that is on the way has to be `Clear` (`reached_iff`, `exists_reached_iff`). And `mem_filesIn`
describes the files that count in a whole tree by `Counts`, which looks at one file at a time and
knows of no walk.
-/

set_option autoImplicit false

namespace Dossier

/-! ## What comes of a result that is changed -/

section Results

variable {ε α β : Type} {f : α → β} {x : Except ε α}

theorem map_eq_ok_iff {b : β} : x.map f = .ok b ↔ ∃ y, x = .ok y ∧ f y = b := by
  cases x <;> simp [Except.map]

theorem map_eq_error_iff {e : ε} : x.map f = .error e ↔ x = .error e := by
  cases x <;> simp [Except.map]

end Results

namespace Analyzer

/-- A file of a tree that counts, by the names that lead to it, with its content. -/
structure Counts (a : Analyzer) (t : Node) (names : List String) (content : String) : Prop where
  /-- There is a file that is not too large and holds this text, of which its facts and its bytes are
  given out. -/
  held : ∃ access bytes, t.at? (textNames names) = some (.file access bytes) ∧
    access.facts = none ∧ access.contents = none ∧ bytes.size ≤ a.maxFileSize ∧
    String.fromUTF8? bytes = some content
  /-- Of it and of every directory above it, it is told what it is. -/
  told : ∀ way, way ≠ [] → way <+: names →
    ∀ n, t.at? (textNames way) = some n → n.access.kind = none
  /-- Neither it nor a directory above it is kept out; the top has no path to be kept out by. -/
  kept : ∀ way, way ≠ [] → way <+: names →
    ∀ g ∈ a.excludeGlobs, g.accepts ("/".intercalate way) = false
  asked : ∃ g ∈ a.includeGlobs, g.accepts ("/".intercalate names) = true

theorem excludes_eq_false {a : Analyzer} {path : String} :
    a.excludes path = false ↔ ∀ g ∈ a.excludeGlobs, g.accepts path = false := by
  simp [excludes, anyAccepts]

theorem includes_eq_true {a : Analyzer} {path : String} :
    a.includes path = true ↔ ∃ g ∈ a.includeGlobs, g.accepts path = true := by
  simp [includes, anyAccepts]

/-! ## One directory -/

theorem textEntry?_eq_some {e : FileName × Node} {x : String × Node} :
    Node.textEntry? e = some x ↔ e = (.text x.1, x.2) := by
  obtain ⟨name, n⟩ := e
  cases name <;> simp [Node.textEntry?, Prod.ext_iff]

theorem mem_textEntries {es : List (FileName × Node)} {name : String} {n : Node} :
    (name, n) ∈ Node.textEntries es ↔ (.text name, n) ∈ es := by
  simp [Node.textEntries, textEntry?_eq_some]

/-- Sorting the entries neither loses one nor makes one up. -/
theorem mem_keptIn {a : Analyzer} {d : PendingDirectory} {path : String} {n : Node} :
    (path, n) ∈ a.keptIn d ↔ ∃ name, (.text name, n) ∈ d.entries ∧
      path = Path.join d.path name ∧ a.excludes path = false := by
  unfold keptIn
  rw [List.mem_filter, List.mem_map]
  constructor
  · rintro ⟨⟨⟨name, m⟩, hmem, heq⟩, hkept⟩
    obtain ⟨rfl, rfl⟩ := Prod.mk.inj heq
    exact ⟨name, mem_textEntries.mp hmem, rfl, by simpa using hkept⟩
  · rintro ⟨name, hmem, rfl, hkept⟩
    exact ⟨⟨(name, n), mem_textEntries.mpr hmem, rfl⟩, by simpa using hkept⟩

theorem fileAt?_eq_some {a : Analyzer} {path : String} {n : Node} {f : FoundFile} :
    a.fileAt? (path, n) = some f ↔
      n = .file f.access f.bytes ∧ n.access.kind = none ∧ f.path = path ∧
        a.includes path = true := by
  obtain ⟨there, access, bytes⟩ := f
  cases n with
  | file told held =>
    simp only [fileAt?, Option.ite_none_right_eq_some, Option.some.injEq, FoundFile.mk.injEq,
      Node.file.injEq, Bool.and_eq_true, Option.isNone_iff_eq_none, Node.access]
    grind
  | directory | link => simp [fileAt?]

theorem directoryAt?_eq_some {path : String} {n : Node} {d : PendingDirectory} :
    directoryAt? (path, n) = some d ↔
      n = .directory d.access d.entries ∧ n.access.kind = none ∧ d.path = path := by
  obtain ⟨there, access, entries⟩ := d
  cases n with
  | directory told held =>
    simp only [directoryAt?, Option.ite_none_right_eq_some, Option.some.injEq,
      PendingDirectory.mk.injEq, Node.directory.injEq, Option.isNone_iff_eq_none, Node.access]
    grind
  | file | link => simp [directoryAt?]

/-- The files that are found in a directory itself. -/
def filesOf (a : Analyzer) (d : PendingDirectory) : List FoundFile :=
  (a.keptIn d).filterMap a.fileAt?

/-- The directories of a directory that are to be read too. -/
def directoriesOf (a : Analyzer) (d : PendingDirectory) : List PendingDirectory :=
  (a.keptIn d).filterMap directoryAt?

theorem mem_filesOf {a : Analyzer} {d : PendingDirectory} {f : FoundFile} :
    f ∈ a.filesOf d ↔ ∃ name, (.text name, .file f.access f.bytes) ∈ d.entries ∧
      f.path = Path.join d.path name ∧ a.excludes f.path = false ∧ f.access.kind = none ∧
      a.includes f.path = true := by
  simp only [filesOf, List.mem_filterMap, Prod.exists, mem_keptIn, fileAt?_eq_some]
  constructor
  · rintro ⟨path, _, ⟨name, hmem, hjoin, hkept⟩, rfl, hkind, rfl, hasked⟩
    exact ⟨name, hmem, hjoin, hkept, hkind, hasked⟩
  · rintro ⟨name, hmem, hjoin, hkept, hkind, hasked⟩
    exact ⟨f.path, _, ⟨name, hmem, hjoin, hkept⟩, rfl, hkind, rfl, hasked⟩

theorem mem_directoriesOf {a : Analyzer} {d e : PendingDirectory} :
    e ∈ a.directoriesOf d ↔ ∃ name, (.text name, .directory e.access e.entries) ∈ d.entries ∧
      e.path = Path.join d.path name ∧ a.excludes e.path = false ∧ e.access.kind = none := by
  simp only [directoriesOf, List.mem_filterMap, Prod.exists, mem_keptIn, directoryAt?_eq_some]
  constructor
  · rintro ⟨path, _, ⟨name, hmem, hjoin, hkept⟩, rfl, hkind, rfl⟩
    exact ⟨name, hmem, hjoin, hkept, hkind⟩
  · rintro ⟨name, hmem, hjoin, hkept, hkind⟩
    exact ⟨e.path, _, ⟨name, hmem, hjoin, hkept⟩, rfl, hkind, rfl⟩

/-! ## The pending directories -/

/-- A directory that comes up in a walk from pending directories. -/
inductive Reached (a : Analyzer) (pending : List PendingDirectory) : PendingDirectory → Prop where
  | pending {d : PendingDirectory} (h : d ∈ pending) : Reached a pending d
  | inner {d e : PendingDirectory} (h : Reached a pending d) (he : e ∈ a.directoriesOf d) :
      Reached a pending e

/-- One step of the walk: a directory gives way to its own directories. -/
theorem reached_cons {a : Analyzer} {d e : PendingDirectory} {pending : List PendingDirectory} :
    a.Reached (d :: pending) e ↔ e = d ∨ a.Reached (a.directoriesOf d ++ pending) e := by
  constructor
  · intro h
    induction h with
    | pending h =>
      rcases List.mem_cons.mp h with rfl | h
      · exact .inl rfl
      · exact .inr (.pending (List.mem_append_right _ h))
    | inner _ he ih =>
      rcases ih with rfl | ih
      · exact .inr (.pending (List.mem_append_left _ he))
      · exact .inr (ih.inner he)
  · rintro (rfl | h)
    · exact .pending (List.mem_cons_self ..)
    · induction h with
      | pending h =>
        rcases List.mem_append.mp h with hinner | hpending
        · exact (Reached.pending (List.mem_cons_self ..)).inner hinner
        · exact .pending (List.mem_cons_of_mem _ hpending)
      | inner _ he ih => exact ih.inner he

theorem discover_cons (a : Analyzer) (root : String) (d : PendingDirectory)
    (pending : List PendingDirectory) :
    a.discover root (d :: pending) =
      match d.access.contents with
      | some fault => .error (.walk (Path.below root d.path) fault)
      | none => (a.discover root (a.directoriesOf d ++ pending)).map (a.filesOf d ++ ·) := by
  rw [discover]
  rfl

/-- **A walk that ends well has listed all directories that come up, and found their files.** -/
theorem of_discover_ok {a : Analyzer} {root : String} {pending : List PendingDirectory}
    {found : List FoundFile} (h : a.discover root pending = .ok found) :
    (∀ d, a.Reached pending d → d.access.contents = none) ∧
      ∀ f, f ∈ found ↔ ∃ d, a.Reached pending d ∧ f ∈ a.filesOf d := by
  induction pending using Analyzer.discover.induct a generalizing found with
  | case1 =>
    rw [discover] at h
    cases h
    have hnone : ∀ d, ¬ a.Reached [] d := by
      intro d hd
      induction hd with
      | pending h => cases h
      | inner _ _ ih => exact ih
    exact ⟨fun d hd => absurd hd (hnone d), by simp [hnone]⟩
  | case2 d pending fault hfault =>
    rw [discover_cons, hfault] at h
    cases h
  | case3 d pending hlisted ih =>
    rw [discover_cons, hlisted] at h
    obtain ⟨rest, hrest, rfl⟩ := map_eq_ok_iff.mp h
    obtain ⟨hall, hfound⟩ := ih hrest
    constructor
    · intro e he
      rcases reached_cons.mp he with rfl | he
      · exact hlisted
      · exact hall e he
    · intro f
      simp only [List.mem_append, hfound, reached_cons, or_and_right, exists_or, exists_eq_left,
        directoriesOf]

/-- A walk that fails has come upon a directory that cannot be listed. -/
theorem of_discover_error {a : Analyzer} {root : String} {pending : List PendingDirectory}
    {err : AnalysisError} (h : a.discover root pending = .error err) :
    ∃ d fault, a.Reached pending d ∧ d.access.contents = some fault ∧
      err = .walk (Path.below root d.path) fault := by
  induction pending using Analyzer.discover.induct a with
  | case1 =>
    rw [discover] at h
    cases h
  | case2 d pending fault hfault =>
    rw [discover_cons, hfault] at h
    cases h
    exact ⟨d, fault, .pending (List.mem_cons_self ..), hfault, rfl⟩
  | case3 d pending hlisted ih =>
    rw [discover_cons, hlisted] at h
    obtain ⟨e, fault, he, hfault, herr⟩ := ih (map_eq_error_iff.mp h)
    exact ⟨e, fault, reached_cons.mpr (.inr he), hfault, herr⟩

/-! ## The way to a place -/

/-- That nothing keeps the walk from what names lead to: at every place on the way it is told what
is there, and that is not kept out. -/
def Clear (a : Analyzer) (t : Node) (names : List String) : Prop :=
  ∀ way, way ≠ [] → way <+: names → a.excludes ("/".intercalate way) = false ∧
    ∀ n, t.at? (textNames way) = some n → n.access.kind = none

/-- That every directory with a clear way can be listed. -/
def Listable (a : Analyzer) (t : Node) : Prop :=
  ∀ names access es, t.at? (textNames names) = some (.directory access es) → a.Clear t names →
    access.contents = none

/-- A tree that does not refuse to list any of its directories. -/
inductive Open : Node → Prop where
  | file (access : Access) (bytes : ByteArray) : Open (.file access bytes)
  | directory {access : Access} {es : List (FileName × Node)} (h : access.contents = none)
      (hentries : ∀ e ∈ es, Open e.2) : Open (.directory access es)
  | link (target : String) : Open (.link target)

theorem Open.at? {t n : Node} (ht : Open t) {names : List FileName} (h : t.at? names = some n) :
    Open n := by
  induction names generalizing t with
  | nil =>
    rw [Node.at?_nil] at h
    cases h
    exact ht
  | cons name rest ih =>
    obtain ⟨access, es, below, rfl, hbelow, hrest⟩ := Node.exists_of_at?_cons h
    cases ht with
    | directory _ hentries => exact ih (hentries _ (Node.mem_of_lookup hbelow)) hrest

/-- Nothing ends a walk of such a tree, whoever walks it. -/
theorem Open.listable {t : Node} (ht : Open t) (a : Analyzer) : a.Listable t := by
  intro names access es hat _
  cases ht.at? hat with
  | directory h _ => exact h

theorem clear_nil (a : Analyzer) (t : Node) : a.Clear t [] := by
  intro way hne hway
  exact absurd (List.prefix_nil.mp hway) hne

theorem clear_concat {a : Analyzer} {t : Node} {names : List String} {name : String} :
    a.Clear t (names ++ [name]) ↔ a.Clear t names ∧
      a.excludes ("/".intercalate (names ++ [name])) = false ∧
      ∀ n, t.at? (textNames (names ++ [name])) = some n → n.access.kind = none := by
  constructor
  · intro h
    refine ⟨fun way hne hway => h way hne (hway.trans (List.prefix_append _ _)), ?_⟩
    exact h _ (by simp) (List.prefix_refl _)
  · rintro ⟨hnames, hlast⟩ way hne hway
    rcases List.prefix_concat_iff.mp hway with rfl | hway
    · exact hlast
    · exact hnames way hne hway

section Names

variable {a : Analyzer} {t : Node} {access : Access} {entries : List (FileName × Node)}
  (ht : (Node.directory access entries).Proper)
include ht

/-- A clear way goes on to an entry that is not kept out and of which it is told what it is. -/
theorem clear_entry_iff {names : List String} {name : String} {n : Node} :
    ((Node.directory access entries).at? (textNames (names ++ [name])) = some n ∧
        a.Clear (.directory access entries) (names ++ [name])) ↔
      ∃ told es, (Node.directory access entries).at? (textNames names) =
          some (.directory told es) ∧
        a.Clear (.directory access entries) names ∧ (.text name, n) ∈ es ∧
        a.excludes (Path.join ("/".intercalate names) name) = false ∧ n.access.kind = none := by
  have hjoin : ∀ {told : Access} {es : List (FileName × Node)},
      (Node.directory access entries).at? (textNames names) = some (.directory told es) →
        Path.join ("/".intercalate names) name = "/".intercalate (names ++ [name]) :=
    fun hat => Path.join_intercalate (ht.isName_of_at? hat) name
  constructor
  · rintro ⟨hat, hclear⟩
    obtain ⟨hclear, hkept, hkind⟩ := clear_concat.mp hclear
    obtain ⟨told, es, hupper, hmem⟩ := ht.at?_concat.mp (textNames_concat names name ▸ hat)
    exact ⟨told, es, hupper, hclear, hmem, hjoin hupper ▸ hkept, hkind n hat⟩
  · rintro ⟨told, es, hupper, hclear, hmem, hkept, hkind⟩
    have hat : (Node.directory access entries).at? (textNames (names ++ [name])) = some n := by
      rw [textNames_concat]
      exact ht.at?_concat.mpr ⟨told, es, hupper, hmem⟩
    refine ⟨hat, clear_concat.mpr ⟨hclear, hjoin hupper ▸ hkept, fun m hm => ?_⟩⟩
    cases hat.symm.trans hm
    exact hkind

/-- **A directory comes up when it has a clear way.** -/
theorem reached_iff {d : PendingDirectory} : a.Reached [⟨"", access, entries⟩] d ↔
    ∃ names, (Node.directory access entries).at? (textNames names) =
        some (.directory d.access d.entries) ∧
      d.path = "/".intercalate names ∧ a.Clear (.directory access entries) names := by
  constructor
  · intro h
    induction h with
    | pending h =>
      obtain rfl := List.mem_singleton.mp h
      exact ⟨[], Node.at?_nil _, String.intercalate_nil.symm, clear_nil a _⟩
    | @inner d e _ he ih =>
      obtain ⟨names, hat, hpath, hclear⟩ := ih
      obtain ⟨name, hmem, hjoin, hkept, hkind⟩ := mem_directoriesOf.mp he
      rw [hjoin, hpath] at hkept
      obtain ⟨hhere, hlonger⟩ :=
        (clear_entry_iff ht).mpr ⟨_, _, hat, hclear, hmem, hkept, hkind⟩
      rw [hpath, Path.join_intercalate (ht.isName_of_at? hat)] at hjoin
      exact ⟨names ++ [name], hhere, hjoin, hlonger⟩
  · rintro ⟨names, hat, hpath, hclear⟩
    induction names using List.reverseRecOn generalizing d with
    | nil =>
      rw [textNames, List.map_nil, Node.at?_nil] at hat
      obtain ⟨path, _, _⟩ := d
      cases hat
      obtain rfl : path = "" := hpath.trans String.intercalate_nil
      exact .pending (List.mem_singleton.mpr rfl)
    | append_singleton names name ih =>
      obtain ⟨outer, es, hupper, hclear, hmem, hkept, hkind⟩ :=
        (clear_entry_iff ht).mp ⟨hat, hclear⟩
      rw [← Path.join_intercalate (ht.isName_of_at? hupper)] at hpath
      have hreached : a.Reached _ ⟨"/".intercalate names, outer, es⟩ := ih hupper rfl hclear
      exact hreached.inner (mem_directoriesOf.mpr ⟨name, hmem, hpath, hpath ▸ hkept, hkind⟩)

/-- A file is found when it has a clear way and is asked for. -/
theorem exists_reached_iff {f : FoundFile} :
    (∃ d, a.Reached [⟨"", access, entries⟩] d ∧ f ∈ a.filesOf d) ↔
      ∃ names, (Node.directory access entries).at? (textNames names) =
          some (.file f.access f.bytes) ∧
        f.path = "/".intercalate names ∧ a.Clear (.directory access entries) names ∧
        a.includes f.path = true := by
  constructor
  · rintro ⟨d, hd, hf⟩
    obtain ⟨names, hat, hpath, hclear⟩ := (reached_iff ht).mp hd
    obtain ⟨name, hmem, hjoin, hkept, hkind, hasked⟩ := mem_filesOf.mp hf
    rw [hjoin, hpath] at hkept
    obtain ⟨hhere, hlonger⟩ :=
      (clear_entry_iff ht).mpr ⟨_, _, hat, hclear, hmem, hkept, hkind⟩
    rw [hpath, Path.join_intercalate (ht.isName_of_at? hat)] at hjoin
    exact ⟨names ++ [name], hhere, hjoin, hlonger, hasked⟩
  · rintro ⟨names, hat, hpath, hclear, hasked⟩
    rcases List.eq_nil_or_concat' names with rfl | ⟨names, name, rfl⟩
    · -- At the top there is a directory.
      rw [textNames, List.map_nil, Node.at?_nil] at hat
      cases hat
    · obtain ⟨outer, es, hupper, hclear, hmem, hkept, hkind⟩ :=
        (clear_entry_iff ht).mp ⟨hat, hclear⟩
      rw [← Path.join_intercalate (ht.isName_of_at? hupper)] at hpath
      exact ⟨⟨"/".intercalate names, outer, es⟩, (reached_iff ht).mpr ⟨names, hupper, rfl, hclear⟩,
        mem_filesOf.mpr ⟨name, hmem, hpath, hpath ▸ hkept, hkind, hasked⟩⟩

end Names

/-! ## The files that count -/

theorem read?_eq_some {a : Analyzer} {f : FoundFile} {path content : String} :
    a.read? f = some ⟨path, content⟩ ↔ f.access.facts = none ∧ f.access.contents = none ∧
      f.bytes.size ≤ a.maxFileSize ∧ String.fromUTF8? f.bytes = some content ∧ f.path = path := by
  unfold read?
  split
  · next hfacts => simp [Option.isSome_iff_ne_none.mp hfacts]
  · next hfacts =>
    split
    · next hsize => simp [Nat.not_le.mpr hsize]
    · next hsize =>
      split
      · next hcontents => simp [Option.isSome_iff_ne_none.mp hcontents]
      · next hcontents =>
        simp only [Option.not_isSome_iff_eq_none] at hfacts hcontents
        simp [hfacts, hcontents, Nat.not_lt.mp hsize]

section Whole

variable {a : Analyzer} {root : String} {access : Access} {entries : List (FileName × Node)}
  (ht : (Node.directory access entries).Proper)
include ht

/-- **The files that count are those that the flat description gives.** -/
theorem mem_filesIn {files : List SourceFile} (h : a.filesIn root access entries = .ok files)
    {path content : String} : ⟨path, content⟩ ∈ files ↔
      ∃ names, path = "/".intercalate names ∧
        a.Counts (.directory access entries) names content := by
  obtain ⟨found, hfound, rfl⟩ := map_eq_ok_iff.mp h
  simp only [List.mem_filterMap, (of_discover_ok hfound).2, exists_reached_iff ht, read?_eq_some]
  constructor
  · rintro ⟨⟨_, _, bytes⟩, ⟨names, hat, rfl, hclear, hasked⟩, hfacts, hcontents, hsize, htext, rfl⟩
    refine ⟨names, rfl, ⟨_, bytes, hat, hfacts, hcontents, hsize, htext⟩, ?_, ?_,
      includes_eq_true.mp hasked⟩
    · exact fun way hne hway => (hclear way hne hway).2
    · exact fun way hne hway => excludes_eq_false.mp (hclear way hne hway).1
  · rintro ⟨names, rfl, ⟨access, bytes, hat, hfacts, hcontents, hsize, htext⟩, htold, hkept, hasked⟩
    refine ⟨⟨"/".intercalate names, access, bytes⟩,
      ⟨names, hat, rfl, ?_, includes_eq_true.mpr hasked⟩, hfacts, hcontents, hsize, htext, rfl⟩
    exact fun way hne hway => ⟨excludes_eq_false.mpr (hkept way hne hway), htold way hne hway⟩

/-- A walk that fails names the directory with a clear way that cannot be listed. -/
theorem of_filesIn_error {err : AnalysisError} (h : a.filesIn root access entries = .error err) :
    ∃ names told es fault,
      (Node.directory access entries).at? (textNames names) = some (.directory told es) ∧
        a.Clear (.directory access entries) names ∧ told.contents = some fault ∧
        err = .walk (Path.below root ("/".intercalate names)) fault := by
  obtain ⟨d, fault, hd, hfault, rfl⟩ := of_discover_error (map_eq_error_iff.mp h)
  obtain ⟨names, hat, hpath, hclear⟩ := (reached_iff ht).mp hd
  exact ⟨names, _, _, fault, hat, hclear, hfault, by rw [hpath]⟩

/-- The files that count are found unless a directory with a clear way cannot be listed. -/
theorem exists_filesIn_iff : (∃ files, a.filesIn root access entries = .ok files) ↔
    a.Listable (.directory access entries) := by
  constructor
  · rintro ⟨files, h⟩ names told es hat hclear
    obtain ⟨found, hfound, -⟩ := map_eq_ok_iff.mp h
    exact (of_discover_ok hfound).1 ⟨"/".intercalate names, told, es⟩
      ((reached_iff ht).mpr ⟨names, hat, rfl, hclear⟩)
  · intro hall
    cases h : a.filesIn root access entries with
    | ok files => exact ⟨files, rfl⟩
    | error err =>
      obtain ⟨names, told, es, fault, hat, hclear, hfault, -⟩ := of_filesIn_error ht h
      rw [hall names told es hat hclear] at hfault
      cases hfault

end Whole

end Analyzer
end Dossier
