import Dossier.Proofs.Selection.Offers
import Dossier.Proofs.Selection.Related
import Dossier.Proofs.Walk

/-!
# Where a reported file lies

A collaborator reports a file in a spelling of its own: the file's id, any number of `./` before it,
the root of the repository before these, the scheme of files before all. Each part is taken off if
it is there, and all of them can be there or not. For an id whose segments name something this leads
from its spellings to the id, and from nothing else (`locationId_eq_iff`): no part of such an id can
be mistaken for one of the others. What lies elsewhere keeps its absolute path, which no repository
has as an id (**`locationId_exact`**).
-/

set_option autoImplicit false

namespace Dossier

namespace Path

/-- The path does not depend on where it is read from. -/
def IsAbsolute (path : String) : Prop := path.toList.head? = some '/'

instance (path : String) : Decidable (IsAbsolute path) := inferInstanceAs (Decidable (_ = _))

theorem isAbsolute_iff {path : String} : IsAbsolute path ↔ ∃ rest, path.toList = '/' :: rest := by
  rw [IsAbsolute, List.head?_eq_some_iff]

/-- What stands before the first separator is the first segment. -/
theorem segments_append {name : String} (h : '/' ∉ name.toList) (rest : String) :
    segments (name ++ "/" ++ rest) = name :: segments rest := by
  have hslash : ∀ part ∈ name :: segments rest, '/' ∉ part.toList :=
    List.forall_mem_cons.mpr ⟨h, fun _ => slash_notMem_of_mem_segments⟩
  rw [← segments_intercalate_of_notMem hslash (List.cons_ne_nil _ _),
    String.intercalate_cons_of_ne_nil (segments_ne_nil rest), intercalate_segments]

/-- What stands before a separator of a plain path names something, and what follows is plain. -/
theorem IsPlain.split {path : String} (h : IsPlain path) (name : List Char) {rest : List Char}
    (hname : '/' ∉ name) (hpath : path.toList = name ++ '/' :: rest) :
    IsOrdinary (String.ofList name) ∧ IsPlain (String.ofList rest) := by
  have hsplit : path = String.ofList name ++ "/" ++ String.ofList rest := by
    rw [← String.toList_inj, hpath]
    simp
  unfold IsPlain at h
  rw [hsplit, segments_append (by simpa using hname)] at h
  exact List.forall_mem_cons.mp h

theorem IsPlain.not_isAbsolute {path : String} (h : IsPlain path) : ¬ IsAbsolute path := by
  intro habsolute
  obtain ⟨rest, hrest⟩ := isAbsolute_iff.mp habsolute
  exact absurd (h.split [] (by simp) hrest).1 (by decide)

theorem IsPlain.not_here {path : String} (h : IsPlain path) : ¬ ['.', '/'] <+: path.toList := by
  rintro ⟨rest, hrest⟩
  exact absurd (h.split ['.'] (by simp) hrest.symm).1 (by decide)

/-- Behind a scheme stands an empty segment. -/
theorem IsPlain.not_uri {path : String} (h : IsPlain path) :
    ¬ "file://".toList <+: path.toList := by
  rintro ⟨rest, hrest⟩
  have hscheme : path.toList = "file:".toList ++ '/' :: '/' :: rest := by simpa using hrest.symm
  exact (h.split _ (by decide) hscheme).2.not_isAbsolute
    (isAbsolute_iff.mpr ⟨rest, String.toList_ofList⟩)

end Path

namespace Lookup

open Dossier.Path

/-- A way to report a file: behind its scheme or not, from the root or not, behind any number of
`./`. -/
def spelling (root : String) (uri absolute : Bool) (heres : Nat) (id : String) : String :=
  (if uri then "file://" else "") ++ (if absolute then root ++ "/" else "")
    ++ String.join (List.replicate heres "./") ++ id

/-- The path of a spelling, behind the scheme. -/
def spelled (root : List Char) (absolute : Bool) (heres : Nat) (id : List Char) : List Char :=
  (if absolute then root ++ ['/'] else []) ++ ((List.replicate heres ['.', '/']).flatten ++ id)

theorem toList_spelling (root : String) (uri absolute : Bool) (heres : Nat) (id : String) :
    (spelling root uri absolute heres id).toList =
      (if uri then "file://".toList else []) ++ spelled root.toList absolute heres id.toList := by
  have hheres : (String.join (List.replicate heres "./")).toList =
      (List.replicate heres ['.', '/']).flatten := by
    rw [String.toList_join, List.flatMap_def, List.map_replicate]
    rfl
  unfold spelling spelled
  rw [String.toList_append, String.toList_append, String.toList_append, hheres, List.append_assoc,
    List.append_assoc]
  cases uri <;> cases absolute <;> simp

/-! ## Parts that are taken off -/

theorem without_append (head rest : List Char) : without head (head ++ rest) = rest := by
  unfold without
  rw [List.isPrefixOf?_eq_some_iff_append_eq.mpr rfl]
  rfl

theorem without_eq_self {head cs : List Char} (h : ¬ head <+: cs) : without head cs = cs := by
  unfold without
  cases hprefix : head.isPrefixOf? cs with
  | none => rfl
  | some rest => exact absurd ⟨rest, List.append_eq_of_isPrefixOf?_eq_some hprefix⟩ h

theorem eq_or_eq_without (head cs : List Char) :
    cs = head ++ without head cs ∨ cs = without head cs := by
  by_cases h : head <+: cs
  · obtain ⟨rest, rfl⟩ := h
    exact .inl (by rw [without_append])
  · exact .inr (without_eq_self h).symm

theorem belowRoot_append (root rest : List Char) :
    belowRoot root (root ++ '/' :: rest) = rest := by
  have hprefix : root.isPrefixOf? (root ++ '/' :: rest) = some ('/' :: rest) :=
    List.isPrefixOf?_eq_some_iff_append_eq.mpr rfl
  simp only [belowRoot, hprefix]

theorem belowRoot_of_forall_ne {root path : List Char} (h : ∀ rest, path ≠ root ++ '/' :: rest) :
    belowRoot root path = path := by
  unfold belowRoot
  split
  · next rest hprefix =>
    exact absurd (List.append_eq_of_isPrefixOf?_eq_some hprefix).symm (h rest)
  · rfl

theorem eq_or_eq_belowRoot (root path : List Char) :
    path = root ++ '/' :: belowRoot root path ∨ path = belowRoot root path := by
  by_cases h : ∃ rest, path = root ++ '/' :: rest
  · obtain ⟨rest, rfl⟩ := h
    exact .inl (by rw [belowRoot_append])
  · exact .inr (belowRoot_of_forall_ne fun rest hrest => h ⟨rest, hrest⟩).symm

/-! ## From a spelling to the id, and back -/

theorem toList_locationId (root file : String) :
    (locationId root file).toList =
      dropHere (belowRoot root.toList (without "file://".toList file.toList)) :=
  String.toList_ofList

section Spellings

variable {root id : String}

theorem spelled_not_uri (hroot : IsAbsolute root) (hid : IsPlain id) (absolute : Bool)
    (heres : Nat) : ¬ "file://".toList <+: spelled root.toList absolute heres id.toList := by
  obtain ⟨names, hnames⟩ := isAbsolute_iff.mp hroot
  unfold spelled
  cases absolute with
  | true => simp [hnames]
  | false =>
    cases heres with
    | zero => simpa using hid.not_uri
    | succ heres => simp [List.replicate_succ]

/-- Below no root there is what does not start with a separator. -/
theorem belowRoot_spelled (hroot : IsAbsolute root) (hid : IsPlain id) (absolute : Bool)
    (heres : Nat) : belowRoot root.toList (spelled root.toList absolute heres id.toList) =
      (List.replicate heres ['.', '/']).flatten ++ id.toList := by
  unfold spelled
  cases absolute with
  | true => simpa using belowRoot_append root.toList _
  | false =>
    obtain ⟨names, hnames⟩ := isAbsolute_iff.mp hroot
    refine belowRoot_of_forall_ne fun rest hrest => ?_
    rw [hnames] at hrest
    cases heres with
    | zero => exact hid.not_isAbsolute (isAbsolute_iff.mpr ⟨_, by simpa using hrest⟩)
    | succ heres => simp [List.replicate_succ] at hrest

theorem locationId_spelling (hroot : IsAbsolute root) (hid : IsPlain id) (uri absolute : Bool)
    (heres : Nat) : locationId root (spelling root uri absolute heres id) = id := by
  have hpath : without "file://".toList (spelling root uri absolute heres id).toList =
      spelled root.toList absolute heres id.toList := by
    rw [toList_spelling]
    cases uri with
    | true => exact without_append _ _
    | false => exact without_eq_self (spelled_not_uri hroot hid absolute heres)
  rw [← String.toList_inj, toList_locationId, hpath, belowRoot_spelled hroot hid,
    dropHere_replicate, dropHere_of_not_isPrefix hid.not_here]

/-- Whatever the root and the id, a file that means an id is spelled in one of the ways. -/
theorem exists_spelling (root file : String) :
    ∃ uri absolute heres, file = spelling root uri absolute heres (locationId root file) := by
  obtain ⟨heres, hheres⟩ :=
    exists_dropHere (belowRoot root.toList (without "file://".toList file.toList))
  obtain ⟨absolute, habsolute⟩ : ∃ absolute,
      without "file://".toList file.toList =
        spelled root.toList absolute heres (locationId root file).toList := by
    unfold spelled
    rw [toList_locationId, ← hheres]
    rcases eq_or_eq_belowRoot root.toList (without "file://".toList file.toList) with h | h
    · exact ⟨true, by simpa using h⟩
    · exact ⟨false, by simpa using h⟩
  rcases eq_or_eq_without "file://".toList file.toList with h | h
  · refine ⟨true, absolute, heres, String.toList_inj.mp ?_⟩
    rw [toList_spelling, ← habsolute]
    exact h
  · refine ⟨false, absolute, heres, String.toList_inj.mp ?_⟩
    rw [toList_spelling, ← habsolute]
    exact h

/-- A file means an id exactly when it is one of the spellings of the id. -/
theorem locationId_eq_iff (hroot : IsAbsolute root) (hid : IsPlain id) {file : String} :
    locationId root file = id ↔
      ∃ uri absolute heres, file = spelling root uri absolute heres id := by
  constructor
  · rintro rfl
    exact exists_spelling root file
  · rintro ⟨uri, absolute, heres, rfl⟩
    exact locationId_spelling hroot hid uri absolute heres

end Spellings

/-- What lies elsewhere keeps its path, behind a scheme or not; the root itself is left with no
text. -/
theorem locationId_of_elsewhere {root path : String} (hpath : IsAbsolute path)
    (helsewhere : ∀ more, more ≠ "" → path ≠ root ++ "/" ++ more) (uri : Bool) :
    locationId root ((if uri then "file://" else "") ++ path) ∈ [path, ""] := by
  obtain ⟨names, hnames⟩ := isAbsolute_iff.mp hpath
  have hwithout : without "file://".toList ((if uri then "file://" else "") ++ path).toList =
      path.toList := by
    cases uri with
    | true => simpa using without_append "file://".toList path.toList
    | false =>
      have hscheme : ¬ "file://".toList <+: path.toList := by simp [hnames]
      simpa using without_eq_self hscheme
  have hdrop : dropHere path.toList = path.toList :=
    dropHere_of_not_isPrefix (by simp [hnames])
  rw [List.mem_pair, ← String.toList_inj, ← String.toList_inj, toList_locationId, hwithout]
  rcases eq_or_eq_belowRoot root.toList path.toList with h | h
  · have hempty : belowRoot root.toList path.toList = [] := by
      by_contra hne
      refine helsewhere (String.ofList (belowRoot root.toList path.toList)) (by simpa using hne) ?_
      rw [← String.toList_inj]
      simpa using h
    exact .inr (by rw [hempty]; rfl)
  · exact .inl (by rw [← h, hdrop])

/-- **A reported file means the id it spells.** From a root that starts with a separator, an id
whose segments all name something is meant by exactly its spellings; and no id of a snapshot, all of
whose ids are relative and not empty, is meant by an absolute path that is not the root, a separator
and more text, however close the path comes to the root. -/
theorem locationId_exact (s : Snapshot) :
    (IsAbsolute s.root → ∀ id, IsPlain id → ∀ file, locationId s.root file = id ↔
      ∃ uri absolute heres, file = spelling s.root uri absolute heres id) ∧
    ((∀ id ∈ s.chunks.ids, id ≠ "" ∧ ¬ IsAbsolute id) → ∀ path, IsAbsolute path →
      (∀ more, more ≠ "" → path ≠ s.root ++ "/" ++ more) → ∀ uri : Bool,
        locationId s.root ((if uri then "file://" else "") ++ path) ∉ s.chunks.ids) := by
  constructor
  · intro hroot id hid file
    exact locationId_eq_iff hroot hid
  · intro hids path hpath helsewhere uri hmem
    obtain ⟨hne, hrelative⟩ := hids _ hmem
    rcases List.mem_pair.mp (locationId_of_elsewhere hpath helsewhere uri) with h | h
    · rw [h] at hrelative
      exact hrelative hpath
    · exact hne h

/-- A repository of one file. Its root is the start of the path of a neighbour. -/
def sampleNeighbour : Snapshot where
  root := "/repo"
  chunks := Catalog.ofList [⟨"src/a.ts", "src/a.ts", "", 1, 0.5, .other, [], []⟩]
  entryPoints := []
  coreModules := []
  imports := default
  importers := default
  totalTokens := 1

theorem locationId_exact_sampleNeighbour :
    (IsAbsolute "/repo" ∧ IsPlain "src/a.ts" ∧
      locationId "/repo" "file:///repo/./src/a.ts" = "src/a.ts") ∧
    (∀ id ∈ sampleNeighbour.chunks.ids, id ≠ "" ∧ ¬ IsAbsolute id) ∧
      IsAbsolute "/repository/a.ts" ∧ (∀ more, more ≠ "" → "/repository/a.ts" ≠ "/repo/" ++ more) ∧
        locationId "/repo" "/repository/a.ts" ∉ sampleNeighbour.chunks.ids := by
  have hplain : IsPlain "src/a.ts" := by decide
  have hids : ∀ id ∈ sampleNeighbour.chunks.ids, id ≠ "" ∧ ¬ IsAbsolute id := by
    decide
  have helsewhere : ∀ more, more ≠ "" → "/repository/a.ts" ≠ "/repo" ++ "/" ++ more := by
    intro more _ h
    simpa using congrArg String.toList h
  have hexact := locationId_exact sampleNeighbour
  refine ⟨⟨by decide, hplain, ?_⟩, hids, by decide, helsewhere, ?_⟩
  · exact (hexact.1 (by decide) "src/a.ts" hplain _).mpr ⟨true, true, 1, by decide⟩
  · exact hexact.2 hids "/repository/a.ts" (by decide) helsewhere false

end Lookup
end Dossier
