import Dossier.FileSystem.Node
import Dossier.Proofs.Path
import Mathlib.Data.List.Nodup

/-!
# Proper trees

Every file system keeps to two rules that the type of trees does not: the entries of a directory
have distinct names, and a name is not empty and has no separator. In a tree that does,
`Node.Proper`, an entry is what a look-up of its name gives, whatever the order of the listing and
whatever is refused. Changes of one place keep to the rules.
-/

set_option autoImplicit false

namespace Dossier

/-- That an entry can have a name. Bytes that are no text are at least not empty, since no bytes are
an empty text. -/
def FileName.IsProper : FileName → Prop
  | .text name => Path.IsName name
  | .bytes name _ => '/'.toUInt8 ∉ name

instance : DecidablePred FileName.IsProper
  | .text name => inferInstanceAs (Decidable (Path.IsName name))
  | .bytes name _ => inferInstanceAs (Decidable ('/'.toUInt8 ∉ name))

/-- The names of a path that consists of text. -/
def textNames (names : List String) : List FileName := names.map .text

theorem textNames_concat (names : List String) (name : String) :
    textNames (names ++ [name]) = textNames names ++ [.text name] := List.map_append

namespace Node

/-- A tree in which names are names, and those of a directory distinct. -/
inductive Proper : Node → Prop where
  | file (access : Access) (bytes : ByteArray) : Proper (.file access bytes)
  | directory (access : Access) {es : List (FileName × Node)} (hnodup : (es.map Prod.fst).Nodup)
      (hnames : ∀ e ∈ es, e.1.IsProper) (hentries : ∀ e ∈ es, Proper e.2) :
      Proper (.directory access es)
  | link (target : String) : Proper (.link target)

/-! ## Look-ups -/

theorem mem_of_lookup {es : List (FileName × Node)} {name : FileName} {n : Node}
    (h : es.lookup name = some n) : (name, n) ∈ es := by
  obtain ⟨before, after, rfl, -⟩ := List.lookup_eq_some_iff.mp h
  exact List.mem_append_right _ (List.mem_cons_self ..)

/-- Where names are distinct, a name has one entry. -/
theorem entry_unique {es : List (FileName × Node)} (hnodup : (es.map Prod.fst).Nodup)
    {name : FileName} {n m : Node} (hn : (name, n) ∈ es) (hm : (name, m) ∈ es) : n = m :=
  congrArg Prod.snd (List.inj_on_of_nodup_map hnodup hn hm rfl)

/-- Where names are distinct, a look-up finds every entry. -/
theorem lookup_eq_some {es : List (FileName × Node)} (hnodup : (es.map Prod.fst).Nodup)
    {name : FileName} {n : Node} : es.lookup name = some n ↔ (name, n) ∈ es := by
  refine ⟨mem_of_lookup, fun h => ?_⟩
  cases hfound : es.lookup name with
  | none =>
    have hnone := List.lookup_eq_none_iff.mp hfound (name, n) h
    simp at hnone
  | some m =>
    rw [entry_unique hnodup (mem_of_lookup hfound) h]

theorem at?_nil (n : Node) : n.at? [] = some n := by
  rw [at?]

theorem at?_cons (n : Node) (name : FileName) (rest : List FileName) :
    n.at? (name :: rest) = (n.entries.lookup name).bind fun below => below.at? rest := by
  rw [at?]

/-- Nothing is below a file or a link. -/
theorem exists_of_at?_cons {n m : Node} {name : FileName} {rest : List FileName}
    (h : n.at? (name :: rest) = some m) :
    ∃ access es below, n = Node.directory access es ∧ es.lookup name = some below ∧
      below.at? rest = some m := by
  rw [at?_cons] at h
  cases n with
  | file | link => simp [entries] at h
  | directory access es =>
    obtain ⟨below, hbelow, hrest⟩ := Option.bind_eq_some_iff.mp h
    exact ⟨access, es, below, rfl, hbelow, hrest⟩

theorem at?_directory_cons {access : Access} {es : List (FileName × Node)}
    (hnodup : (es.map Prod.fst).Nodup) {name : FileName} {below : Node} (h : (name, below) ∈ es)
    (rest : List FileName) :
    (Node.directory access es).at? (name :: rest) = below.at? rest := by
  rw [at?_cons]
  show (es.lookup name).bind _ = _
  rw [(lookup_eq_some hnodup).mpr h]
  rfl

theorem at?_append (n : Node) (names rest : List FileName) :
    n.at? (names ++ rest) = (n.at? names).bind fun below => below.at? rest := by
  induction names generalizing n with
  | nil => rw [List.nil_append, at?_nil, Option.bind_some]
  | cons name names ih => simp only [List.cons_append, at?_cons, ih, Option.bind_assoc]

/-! ## Properness -/

section Entries

variable {access : Access} {es : List (FileName × Node)} (h : (Node.directory access es).Proper)
include h

theorem Proper.nodup : (es.map Prod.fst).Nodup := by
  cases h with
  | directory _ hnodup => exact hnodup

theorem Proper.isProper {name : FileName} {n : Node} (hmem : (name, n) ∈ es) :
    name.IsProper := by
  cases h with
  | directory _ _ hnames => exact hnames _ hmem

theorem Proper.entry {name : FileName} {n : Node} (hmem : (name, n) ∈ es) : n.Proper := by
  cases h with
  | directory _ _ _ hentries => exact hentries _ hmem

end Entries

/-- The way to a place of a proper tree consists of names. -/
theorem Proper.names_of_at? {n m : Node} (hn : n.Proper) {names : List FileName}
    (h : n.at? names = some m) : ∀ name ∈ names, name.IsProper := by
  induction names generalizing n with
  | nil => simp
  | cons name rest ih =>
    obtain ⟨access, es, below, rfl, hbelow, hrest⟩ := exists_of_at?_cons h
    have hmem := mem_of_lookup hbelow
    intro other hother
    rcases List.mem_cons.mp hother with rfl | hother
    · exact hn.isProper hmem
    · exact ih (hn.entry hmem) hrest other hother

theorem Proper.at? {n m : Node} (hn : n.Proper) {names : List FileName}
    (h : n.at? names = some m) : m.Proper := by
  induction names generalizing n with
  | nil =>
    rw [at?_nil] at h
    cases h
    exact hn
  | cons name rest ih =>
    obtain ⟨access, es, below, rfl, hbelow, hrest⟩ := exists_of_at?_cons h
    exact ih (hn.entry (mem_of_lookup hbelow)) hrest

theorem Proper.isName_of_at? {n m : Node} (hn : n.Proper) {names : List String}
    (h : n.at? (textNames names) = some m) : ∀ name ∈ names, Path.IsName name :=
  fun name hname => hn.names_of_at? h (.text name) (List.mem_map_of_mem hname)

/-- One name further along a way into a proper tree there is the entry of this name. -/
theorem Proper.at?_concat {n m : Node} (hn : n.Proper) {names : List FileName} {name : FileName} :
    n.at? (names ++ [name]) = some m ↔
      ∃ access es, n.at? names = some (.directory access es) ∧ (name, m) ∈ es := by
  rw [at?_append]
  constructor
  · intro h
    obtain ⟨inner, hinner, hrest⟩ := Option.bind_eq_some_iff.mp h
    obtain ⟨access, es, below, rfl, hbelow, hlast⟩ := exists_of_at?_cons hrest
    rw [at?_nil] at hlast
    cases hlast
    exact ⟨access, es, hinner, mem_of_lookup hbelow⟩
  · rintro ⟨access, es, hinner, hmem⟩
    rw [hinner, Option.bind_some, at?_directory_cons (hn.at? hinner).nodup hmem, at?_nil]

/-! ## Listings in another order -/

/-- The same tree, with the entries of its directories listed in any order. -/
inductive Relisted : Node → Node → Prop where
  | file (access : Access) (bytes : ByteArray) : Relisted (.file access bytes) (.file access bytes)
  | directory (access : Access) {es fs : List (FileName × Node)}
      (hnames : (es.map Prod.fst).Perm (fs.map Prod.fst))
      (hentries : ∀ name n m, (name, n) ∈ es → (name, m) ∈ fs → Relisted n m) :
      Relisted (.directory access es) (.directory access fs)
  | link (target : String) : Relisted (.link target) (.link target)

/-- Names that two listings share have an entry in each. -/
theorem exists_entry_of_mem_names {es : List (FileName × Node)} {name : FileName}
    (h : name ∈ es.map Prod.fst) : ∃ n, (name, n) ∈ es := by
  obtain ⟨⟨other, n⟩, hmem, rfl⟩ := List.mem_map.mp h
  exact ⟨n, hmem⟩

theorem Relisted.proper {n m : Node} (h : n.Relisted m) (hn : n.Proper) : m.Proper := by
  induction h with
  | file access bytes => exact .file access bytes
  | link target => exact .link target
  | @directory access es fs hnames _ ih =>
    have hback : ∀ e ∈ fs, ∃ n, (e.1, n) ∈ es := fun e he =>
      exists_entry_of_mem_names (hnames.mem_iff.mpr (List.mem_map_of_mem he))
    refine .directory access (hnames.nodup_iff.mp hn.nodup) ?_ ?_
    · intro e he
      obtain ⟨n, hmem⟩ := hback e he
      exact hn.isProper hmem
    · intro e he
      obtain ⟨n, hmem⟩ := hback e he
      exact ih e.1 n e.2 hmem he (hn.entry hmem)

/-! ## Changes of one place -/

theorem mem_withEntry {name other : FileName} {n m : Node} {es : List (FileName × Node)} :
    (other, m) ∈ withEntry name n es ↔
      (other = name ∧ m = n) ∨ (other ≠ name ∧ (other, m) ∈ es) := by
  unfold withEntry
  rw [List.mem_append, List.mem_filter, List.mem_singleton]
  constructor
  · rintro (⟨hmem, hne⟩ | heq)
    · exact .inr ⟨by simpa using hne, hmem⟩
    · exact .inl (Prod.mk.inj heq)
  · rintro (⟨rfl, rfl⟩ | ⟨hne, hmem⟩)
    · exact .inr rfl
    · exact .inl ⟨hmem, by simpa using hne⟩

theorem nodup_withEntry {name : FileName} {n : Node} {es : List (FileName × Node)}
    (hnodup : (es.map Prod.fst).Nodup) : ((withEntry name n es).map Prod.fst).Nodup := by
  unfold withEntry
  rw [List.map_append, List.nodup_append]
  refine ⟨hnodup.sublist (List.filter_sublist.map _), List.nodup_singleton _, ?_⟩
  intro other hother same hsame heq
  obtain ⟨e, he, rfl⟩ := List.mem_map.mp hother
  have hne : e.1 ≠ name := by simpa using (List.mem_filter.mp he).2
  exact hne (heq.trans (by simpa using hsame))

theorem Proper.withEntry {access : Access} {es : List (FileName × Node)}
    (h : (Node.directory access es).Proper) {name : FileName} (hname : name.IsProper) {n : Node}
    (hn : n.Proper) : (Node.directory access (withEntry name n es)).Proper := by
  refine .directory access (nodup_withEntry h.nodup) ?_ ?_
  · rintro ⟨other, m⟩ hmem
    rcases mem_withEntry.mp hmem with ⟨rfl, -⟩ | ⟨-, hmem⟩
    · exact hname
    · exact h.isProper hmem
  · rintro ⟨other, m⟩ hmem
    rcases mem_withEntry.mp hmem with ⟨-, rfl⟩ | ⟨-, hmem⟩
    · exact hn
    · exact h.entry hmem

theorem Proper.filter {access : Access} {es : List (FileName × Node)}
    (h : (Node.directory access es).Proper) (p : FileName × Node → Bool) :
    (Node.directory access (es.filter p)).Proper :=
  .directory access (h.nodup.sublist (List.filter_sublist.map _))
    (fun _ he => h.isProper (List.mem_of_mem_filter he))
    (fun _ he => h.entry (List.mem_of_mem_filter he))

theorem proper_directory_nil (access : Access) : (Node.directory access []).Proper :=
  .directory access List.nodup_nil (by simp) (by simp)

/-- What is at a place, taken as a directory: a file or a link gives way to an empty one. -/
theorem Proper.entries {n : Node} (h : n.Proper) : (Node.directory n.access n.entries).Proper := by
  cases n with
  | file | link => exact proper_directory_nil _
  | directory access es => exact h

/-- A tree stays proper with a proper tree put in place. -/
theorem Proper.replace {n new : Node} (hn : n.Proper) (hnew : new.Proper) {names : List FileName}
    (hnames : ∀ name ∈ names, name.IsProper) : (n.replace names new).Proper := by
  induction names generalizing n with
  | nil => exact hnew
  | cons name rest ih =>
    have hbelow : ((n.entries.lookup name).getD emptyDirectory).Proper := by
      cases h : n.entries.lookup name with
      | none => exact proper_directory_nil _
      | some below => exact hn.entries.entry (mem_of_lookup h)
    exact hn.entries.withEntry (hnames name (List.mem_cons_self ..))
      (ih hbelow fun other hother => hnames other (List.mem_cons_of_mem _ hother))

/-- Something can be removed below directories only, and only where something is. -/
theorem exists_of_remove?_cons {n u : Node} {name : FileName} {rest : List FileName}
    (h : n.remove? (name :: rest) = some u) :
    ∃ access es below, n = Node.directory access es ∧ es.lookup name = some below := by
  have hlookup : ∃ below, n.entries.lookup name = some below := by
    cases rest with
    | nil =>
      rw [remove?] at h
      split at h
      · next hsome => exact Option.isSome_iff_exists.mp hsome
      · cases h
    | cons next rest =>
      obtain ⟨below, hbelow, -⟩ := Option.bind_eq_some_iff.mp h
      exact ⟨below, hbelow⟩
  obtain ⟨below, hbelow⟩ := hlookup
  cases n with
  | file | link => simp [Node.entries] at hbelow
  | directory access es => exact ⟨access, es, below, rfl, hbelow⟩

theorem remove?_singleton {access : Access} {es : List (FileName × Node)} {name : FileName}
    {below : Node} (hbelow : es.lookup name = some below) :
    (Node.directory access es).remove? [name] =
      some (.directory access (es.filter fun (other, _) => other != name)) := by
  rw [remove?]
  show (if (es.lookup name).isSome then _ else _) = _
  rw [hbelow]
  rfl

theorem exists_of_remove?_below {access : Access} {es : List (FileName × Node)} {u below : Node}
    {name : FileName} {rest : List FileName} (hbelow : es.lookup name = some below)
    (hrest : rest ≠ []) (h : (Node.directory access es).remove? (name :: rest) = some u) :
    ∃ left, below.remove? rest = some left ∧
      u = .directory access (withEntry name left es) := by
  cases rest with
  | nil => exact absurd rfl hrest
  | cons next rest =>
    obtain ⟨found, hfound, hdone⟩ := Option.bind_eq_some_iff.mp h
    obtain ⟨left, hleft, hu⟩ := Option.bind_eq_some_iff.mp hdone
    obtain rfl : below = found := Option.some.inj (hbelow.symm.trans hfound)
    exact ⟨left, hleft, (Option.some.inj hu).symm⟩

/-- The way to something that is removed from a proper tree consists of names. -/
theorem Proper.names_of_remove? {n u : Node} (hn : n.Proper) {names : List FileName}
    (h : n.remove? names = some u) : ∀ name ∈ names, name.IsProper := by
  induction names generalizing n u with
  | nil => simp
  | cons name rest ih =>
    obtain ⟨access, es, below, rfl, hbelow⟩ := exists_of_remove?_cons h
    have hmem := mem_of_lookup hbelow
    refine List.forall_mem_cons.mpr ⟨hn.isProper hmem, ?_⟩
    by_cases hrest : rest = []
    · simp [hrest]
    · obtain ⟨left, hleft, -⟩ := exists_of_remove?_below hbelow hrest h
      exact ih (hn.entry hmem) hleft

/-- A tree stays proper without what was in one place. -/
theorem Proper.remove {n u : Node} (hn : n.Proper) {names : List FileName}
    (h : n.remove? names = some u) : u.Proper := by
  induction names generalizing n u with
  | nil => simp [remove?] at h
  | cons name rest ih =>
    obtain ⟨access, es, below, rfl, hbelow⟩ := exists_of_remove?_cons h
    have hmem := mem_of_lookup hbelow
    by_cases hrest : rest = []
    · subst hrest
      rw [remove?_singleton hbelow] at h
      cases h
      exact hn.filter _
    · obtain ⟨left, hleft, rfl⟩ := exists_of_remove?_below hbelow hrest h
      exact hn.withEntry (hn.isProper hmem) (ih (hn.entry hmem) hleft)

end Node
end Dossier
