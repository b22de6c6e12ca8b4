import Dossier.Proofs.Analysis.Discovery
import Mathlib.Data.List.Forall2

/-!
# Trees that are alike to an analyzer

What an analyzer keeps out it does not look at, and the order of a listing it does not heed. `Alike`
relates two trees that differ in no more than that, and `filesIn_congr` says that the walk goes the
same way in them: it finds the same files in the same order, or ends with the same error. A tree
listed in another order is alike (`Alike.of_relisted`), and so is one that was changed in a place at
or below one that is kept out (`alike_replace`, `alike_remove`).
-/

set_option autoImplicit false

namespace Dossier.Analyzer

/--
Two trees at the same path that are the same to an analyzer. Files and links are the same;
directories have entries of the same names, alike in turn, where those that are kept out and those
whose names are no text do not matter, and the order does not either.
-/
inductive Alike (a : Analyzer) : String → Node → Node → Prop where
  | file {path : String} (access : Access) (bytes : ByteArray) :
      Alike a path (.file access bytes) (.file access bytes)
  | directory {path : String} (access : Access) {es fs : List (FileName × Node)}
      (hnames : ∀ name, a.excludes (Path.join path name) = false →
        (.text name ∈ es.map Prod.fst ↔ .text name ∈ fs.map Prod.fst))
      (hentries : ∀ name n m, a.excludes (Path.join path name) = false →
        (.text name, n) ∈ es → (.text name, m) ∈ fs → Alike a (Path.join path name) n m) :
      Alike a path (.directory access es) (.directory access fs)
  | link {path : String} (target : String) : Alike a path (.link target) (.link target)

variable {a : Analyzer} {path : String} {n m : Node}

theorem Alike.access_eq (h : a.Alike path n m) : n.access = m.access := by
  cases h <;> rfl

/-- A tree in another listing is alike, wherever it stands. -/
theorem Alike.of_relisted (h : n.Relisted m) (path : String) : a.Alike path n m := by
  induction h generalizing path with
  | file access bytes => exact .file access bytes
  | link target => exact .link target
  | directory access hnames _ ih =>
    refine .directory access (fun name _ => hnames.mem_iff) ?_
    intro name n m _ hn hm
    exact ih _ n m hn hm _

/-- A proper tree is alike to itself; were there a name twice, its two entries would have to be. -/
theorem Alike.refl (hn : n.Proper) (path : String) : a.Alike path n n := by
  induction hn generalizing path with
  | file access bytes => exact .file access bytes
  | link target => exact .link target
  | directory access hnodup _ _ ih =>
    refine .directory access (fun name _ => Iff.rfl) ?_
    intro name n m _ hn hm
    obtain rfl := Node.entry_unique hnodup hn hm
    exact ih _ hn _

/-! ## The same walk -/

/-- Entries by one path that a walk does not tell apart. -/
structure Same (a : Analyzer) (x y : String × Node) : Prop where
  path : x.1 = y.1
  alike : a.Alike x.1 x.2 y.2
  left : x.2.Proper
  right : y.2.Proper

/-- A directory that is still to be read, as the entry that it comes from. -/
def entryOf (d : PendingDirectory) : String × Node := (d.path, .directory d.access d.entries)

theorem Same.fileAt? {x y : String × Node} (h : a.Same x y) : a.fileAt? x = a.fileAt? y := by
  obtain ⟨path, n⟩ := x
  obtain ⟨_, m⟩ := y
  obtain ⟨rfl, halike, -, -⟩ := h
  cases halike <;> rfl

theorem Same.directoryAt? {x y : String × Node} (h : a.Same x y) :
    Option.Rel (fun d e => a.Same (entryOf d) (entryOf e)) (directoryAt? x) (directoryAt? y) := by
  obtain ⟨path, n⟩ := x
  obtain ⟨_, m⟩ := y
  obtain ⟨rfl, halike, hn, hm⟩ := h
  cases halike with
  | file | link => exact .none
  | directory access hnames hentries =>
    cases hkind : access.kind.isNone with
    | true =>
      simp only [Analyzer.directoryAt?, hkind, if_true]
      exact .some ⟨rfl, .directory access hnames hentries, hn, hm⟩
    | false =>
      simp only [Analyzer.directoryAt?, hkind, Bool.false_eq_true, if_false]
      exact .none

theorem filterMap_fileAt?_congr {xs ys : List (String × Node)} (h : List.Forall₂ a.Same xs ys) :
    xs.filterMap a.fileAt? = ys.filterMap a.fileAt? := by
  induction h with
  | nil => rfl
  | cons hxy _ ih => rw [List.filterMap_cons, List.filterMap_cons, hxy.fileAt?, ih]

/-- The entries of a directory that are not kept out, by name, in the order of their names. -/
def keptEntries (a : Analyzer) (path : String) (es : List (FileName × Node)) :
    List (String × Node) :=
  (Node.textEntries es).filter fun (name, _) => !a.excludes (Path.join path name)

theorem keptIn_eq (a : Analyzer) (d : PendingDirectory) :
    a.keptIn d =
      (a.keptEntries d.path d.entries).map fun (name, n) => (Path.join d.path name, n) :=
  List.filter_map

theorem mem_keptEntries {es : List (FileName × Node)} {name : String} :
    (name, n) ∈ a.keptEntries path es ↔
      (.text name, n) ∈ es ∧ a.excludes (Path.join path name) = false := by
  rw [keptEntries, List.mem_filter, mem_textEntries, Bool.not_eq_true']

theorem mem_names_keptEntries {es : List (FileName × Node)} {name : String} :
    name ∈ (a.keptEntries path es).map Prod.fst ↔
      .text name ∈ es.map Prod.fst ∧ a.excludes (Path.join path name) = false := by
  simp only [List.mem_map, Prod.exists, exists_and_right, exists_eq_right, mem_keptEntries]

theorem pairwise_keptEntries (a : Analyzer) (path : String) (es : List (FileName × Node)) :
    ((a.keptEntries path es).map Prod.fst).Pairwise (· ≤ ·) := by
  have hsorted : (Node.textEntries es).Pairwise fun x y => decide (x.1 ≤ y.1) = true :=
    List.pairwise_mergeSort (fun x y z => by simpa using String.le_trans)
      (fun x y => by simpa using String.le_total x.1 y.1) _
  rw [List.pairwise_map]
  exact (hsorted.sublist List.filter_sublist).imp fun h => of_decide_eq_true h

theorem nodup_keptEntries {es : List (FileName × Node)} (hnodup : (es.map Prod.fst).Nodup) :
    ((a.keptEntries path es).map Prod.fst).Nodup := by
  refine List.Nodup.sublist (List.filter_sublist.map _) ?_
  rw [Node.textEntries, ((List.mergeSort_perm _ _).map _).nodup_iff]
  rw [List.Nodup, List.pairwise_map] at hnodup ⊢
  refine hnodup.filterMap _ fun x y hne b hb c hc heq => hne ?_
  rw [textEntry?_eq_some.mp hb, textEntry?_eq_some.mp hc, heq]

/-- Entries by the same names in the same order are related one by one. -/
theorem forall₂_of_names_eq {r : String × Node → String × Node → Prop}
    {xs ys : List (String × Node)} (hnames : xs.map Prod.fst = ys.map Prod.fst)
    (h : ∀ x ∈ xs, ∀ y ∈ ys, x.1 = y.1 → r x y) : List.Forall₂ r xs ys := by
  induction xs generalizing ys with
  | nil =>
    rw [List.map_nil] at hnames
    rw [List.map_eq_nil_iff.mp hnames.symm]
    exact .nil
  | cons x xs ih =>
    obtain ⟨y, ys, rfl, hname, hrest⟩ := List.map_eq_cons_iff.mp hnames.symm
    refine .cons (h x (List.mem_cons_self ..) y (List.mem_cons_self ..) hname.symm) ?_
    exact ih hrest.symm fun x hx y hy =>
      h x (List.mem_cons_of_mem _ hx) y (List.mem_cons_of_mem _ hy)

/-- What is gone through in one directory is the same in both trees, one by one. -/
theorem Same.keptIn {d e : PendingDirectory} (h : a.Same (entryOf d) (entryOf e)) :
    List.Forall₂ a.Same (a.keptIn d) (a.keptIn e) := by
  obtain ⟨path, access, es⟩ := d
  obtain ⟨_, _, fs⟩ := e
  obtain ⟨rfl, halike, hes, hfs⟩ := h
  cases halike with
  | directory _ hnames hentries =>
    have hsame : (a.keptEntries path es).map Prod.fst = (a.keptEntries path fs).map Prod.fst := by
      -- Both are in order, and have the same members.
      refine List.Perm.eq_of_pairwise (fun x y _ _ => String.le_antisymm)
        (a.pairwise_keptEntries path es) (a.pairwise_keptEntries path fs) ?_
      refine (List.perm_ext_iff_of_nodup (nodup_keptEntries hes.nodup)
        (nodup_keptEntries hfs.nodup)).mpr fun name => ?_
      simp only [mem_names_keptEntries]
      exact and_congr_left (hnames name)
    rw [keptIn_eq, keptIn_eq, List.forall₂_map_left_iff, List.forall₂_map_right_iff]
    refine forall₂_of_names_eq hsame ?_
    rintro ⟨name, n⟩ hn ⟨_, m⟩ hm rfl
    obtain ⟨hn, hkept⟩ := mem_keptEntries.mp hn
    obtain ⟨hm, -⟩ := mem_keptEntries.mp hm
    exact ⟨rfl, hentries name n m hkept hn hm, hes.entry hn, hfs.entry hm⟩

/-- **The walk goes the same way from pending directories that are alike.** -/
theorem discover_congr (root : String) {ds es : List PendingDirectory}
    (h : List.Forall₂ (fun d e => a.Same (entryOf d) (entryOf e)) ds es) :
    a.discover root ds = a.discover root es := by
  induction ds using Analyzer.discover.induct a generalizing es with
  | case1 =>
    cases h
    rfl
  | case2 d ds fault hfault =>
    obtain ⟨e, es, hde, -, rfl⟩ := List.forall₂_cons_left_iff.mp h
    have haccess : d.access = e.access := hde.alike.access_eq
    have hpath : d.path = e.path := hde.path
    rw [discover_cons, discover_cons, ← haccess, ← hpath, hfault]
  | case3 d ds hlisted ih =>
    obtain ⟨e, es, hde, hrest, rfl⟩ := List.forall₂_cons_left_iff.mp h
    have haccess : d.access = e.access := hde.alike.access_eq
    have hfiles : a.filesOf d = a.filesOf e := filterMap_fileAt?_congr hde.keptIn
    have hdirectories : List.Forall₂ (fun d e => a.Same (entryOf d) (entryOf e))
        (a.directoriesOf d) (a.directoriesOf e) :=
      List.rel_filterMap (fun _ _ hxy => hxy.directoryAt?) hde.keptIn
    have hwalk : a.discover root (a.directoriesOf d ++ ds) =
        a.discover root (a.directoriesOf e ++ es) := ih (List.rel_append hdirectories hrest)
    rw [discover_cons, discover_cons, ← haccess, hlisted, hfiles, hwalk]

/-- **The same files count in trees that are alike, or both cannot be walked for one reason.** -/
theorem filesIn_congr (root : String) {access : Access} {es fs : List (FileName × Node)}
    (hes : (Node.directory access es).Proper) (hfs : (Node.directory access fs).Proper)
    (h : a.Alike "" (.directory access es) (.directory access fs)) :
    a.filesIn root access es = a.filesIn root access fs := by
  have hsame : a.Same (entryOf ⟨"", access, es⟩) (entryOf ⟨"", access, fs⟩) := ⟨rfl, h, hes, hfs⟩
  unfold filesIn
  rw [discover_congr root (.cons hsame .nil)]

/-! ## Changes out of sight -/

section Changes

variable {access : Access} {es : List (FileName × Node)}

/-- Another entry in place of one makes no difference when it is alike or kept out. -/
theorem alike_withEntry (hes : (Node.directory access es).Proper) {name : String}
    {below new : Node} (hmem : (.text name, below) ∈ es)
    (h : a.excludes (Path.join path name) = false → a.Alike (Path.join path name) below new) :
    a.Alike path (.directory access es)
      (.directory access (Node.withEntry (.text name) new es)) := by
  refine .directory access (fun other _ => ?_) ?_
  · constructor
    · intro hother
      obtain ⟨n, hn⟩ := Node.exists_entry_of_mem_names hother
      by_cases heq : FileName.text other = .text name
      · exact List.mem_map.mpr ⟨_, Node.mem_withEntry.mpr (.inl ⟨heq, rfl⟩), rfl⟩
      · exact List.mem_map.mpr ⟨_, Node.mem_withEntry.mpr (.inr ⟨heq, hn⟩), rfl⟩
    · intro hother
      obtain ⟨n, hn⟩ := Node.exists_entry_of_mem_names hother
      rcases Node.mem_withEntry.mp hn with ⟨heq, -⟩ | ⟨-, hn⟩
      · exact heq ▸ List.mem_map_of_mem hmem
      · exact List.mem_map_of_mem hn
  · intro other n m hkept hn hm
    rcases Node.mem_withEntry.mp hm with ⟨heq, rfl⟩ | ⟨-, hm⟩
    · cases heq
      obtain rfl := Node.entry_unique hes.nodup hn hmem
      exact h hkept
    · obtain rfl := Node.entry_unique hes.nodup hn hm
      exact .refl (hes.entry hn) _

/-- Putting something at or below what is kept out makes no difference. -/
theorem alike_replace (hn : n.Proper) {way : List String} {rest : List FileName} (hne : way ≠ [])
    (hthere : (n.at? (textNames way)).isSome) (hout : a.excludes (way.foldl Path.join path) = true)
    (new : Node) : a.Alike path n (n.replace (textNames way ++ rest) new) := by
  induction way generalizing path n with
  | nil => exact absurd rfl hne
  | cons name way ih =>
    obtain ⟨end', hend⟩ := Option.isSome_iff_exists.mp hthere
    obtain ⟨access, es, below, rfl, hbelow, hrest⟩ := Node.exists_of_at?_cons hend
    have hmem := Node.mem_of_lookup hbelow
    have hreplace : (Node.directory access es).replace (textNames (name :: way) ++ rest) new =
        .directory access
          (Node.withEntry (.text name) (below.replace (textNames way ++ rest) new) es) := by
      show (Node.directory access es).replace (.text name :: (textNames way ++ rest)) new = _
      rw [Node.replace]
      show Node.directory access
        (Node.withEntry _ (((es.lookup (.text name)).getD _).replace _ _) es) = _
      rw [hbelow]
      rfl
    rw [hreplace]
    refine alike_withEntry hn hmem fun hkept => ?_
    by_cases hway : way = []
    · -- The entry is kept out itself.
      subst hway
      rw [List.foldl_cons, List.foldl_nil, hkept] at hout
      cases hout
    · exact ih (hn.entry hmem) hway (Option.isSome_iff_exists.mpr ⟨_, hrest⟩) hout

/-- Without an entry that is kept out nothing else is missing. -/
theorem alike_filter (hes : (Node.directory access es).Proper) {name : String}
    (hout : a.excludes (Path.join path name) = true) :
    a.Alike path (.directory access es)
      (.directory access (es.filter fun (other, _) => other != .text name)) := by
  refine .directory access (fun other hkept => ?_) ?_
  · have hne : FileName.text other ≠ .text name := by
      rintro heq
      cases heq
      rw [hkept] at hout
      cases hout
    constructor
    · intro hother
      obtain ⟨n, hn⟩ := Node.exists_entry_of_mem_names hother
      exact List.mem_map.mpr ⟨_, List.mem_filter.mpr ⟨hn, by simpa using hne⟩, rfl⟩
    · intro hother
      obtain ⟨n, hn⟩ := Node.exists_entry_of_mem_names hother
      exact List.mem_map_of_mem (List.mem_of_mem_filter hn)
  · intro other n m _ hn hm
    obtain rfl := Node.entry_unique hes.nodup hn (List.mem_of_mem_filter hm)
    exact .refl (hes.entry hn) _

/-- Removing something at or below what is kept out makes no difference. -/
theorem alike_remove (hn : n.Proper) {way : List String} {rest : List FileName} (hne : way ≠ [])
    (hout : a.excludes (way.foldl Path.join path) = true) {u : Node}
    (hu : n.remove? (textNames way ++ rest) = some u) : a.Alike path n u := by
  induction way generalizing path n u with
  | nil => exact absurd rfl hne
  | cons name way ih =>
    obtain ⟨access, es, below, rfl, hbelow⟩ := Node.exists_of_remove?_cons hu
    have hmem := Node.mem_of_lookup hbelow
    -- The entry itself goes, or something below it.
    by_cases hlast : textNames way ++ rest = []
    · obtain ⟨hway, rfl⟩ := List.append_eq_nil_iff.mp hlast
      obtain rfl := List.map_eq_nil_iff.mp hway
      rw [textNames, List.map_singleton, List.append_nil, Node.remove?_singleton hbelow] at hu
      cases hu
      exact alike_filter hn hout
    · obtain ⟨left, hleft, rfl⟩ := Node.exists_of_remove?_below hbelow hlast hu
      refine alike_withEntry hn hmem fun hkept => ?_
      by_cases hway : way = []
      · subst hway
        rw [List.foldl_cons, List.foldl_nil, hkept] at hout
        cases hout
      · exact ih (hn.entry hmem) hway hout hleft

end Changes

end Dossier.Analyzer
