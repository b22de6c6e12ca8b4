import Dossier.Path
import Mathlib.Data.List.TakeWhile

/-!
# Paths and their names

A path of a repository is a list of names with `/` between them. As long as the names are names, the
text of a path tells them apart again (`segments_intercalate`), so that no two places of a tree
share a path (`intercalate_injective`). Joining names one by one, as a walk does, gives the same
text. The directory of a path has all of its segments but the last (`directoryOf_eq`), which is the
name of the file. An extension ends its path (`stem_append_extension`), so it can be cut off.
-/

set_option autoImplicit false

namespace Dossier

namespace Text

theorem eq_of_cutFirst {sep : Char} {cs front back : List Char}
    (h : cutFirst sep cs = some (front, back)) : cs = front ++ sep :: back := by
  unfold cutFirst at h
  split at h
  · cases h
  · next c rest hdrop =>
    cases h
    have hfirst := List.head?_dropWhile_not (· != sep) cs
    rw [hdrop] at hfirst
    have hc : c = sep := by simpa using hfirst
    subst hc
    rw [← hdrop, List.takeWhile_append_dropWhile]

theorem eq_of_cutLast {sep : Char} {cs front back : List Char}
    (h : cutLast sep cs = some (front, back)) : cs = front ++ sep :: back := by
  obtain ⟨⟨tail, head⟩, hcut, heq⟩ := Option.map_eq_some_iff.mp h
  cases heq
  have hrev := congrArg List.reverse (eq_of_cutFirst hcut)
  simpa using hrev

theorem ne_of_notMem {sep : Char} {cs : List Char} (h : sep ∉ cs) :
    ∀ c ∈ cs, (c != sep) = true := by
  intro c hc
  rw [bne_iff_ne]
  rintro rfl
  exact h hc

theorem cutFirst_append_cons {sep : Char} {front : List Char} (back : List Char)
    (h : sep ∉ front) : cutFirst sep (front ++ sep :: back) = some (front, back) := by
  unfold cutFirst
  rw [List.dropWhile_append_of_pos (ne_of_notMem h), List.takeWhile_append_of_pos (ne_of_notMem h)]
  simp

theorem cutFirst_of_notMem {sep : Char} {cs : List Char} (h : sep ∉ cs) :
    cutFirst sep cs = none := by
  unfold cutFirst
  rw [List.dropWhile_eq_nil_iff.mpr (ne_of_notMem h)]

theorem cutLast_append_cons {sep : Char} (front : List Char) {back : List Char}
    (h : sep ∉ back) : cutLast sep (front ++ sep :: back) = some (front, back) := by
  have hreverse : (front ++ sep :: back).reverse = back.reverse ++ sep :: front.reverse := by simp
  unfold cutLast
  rw [hreverse, cutFirst_append_cons _ (by simpa using h)]
  simp

theorem cutLast_of_notMem {sep : Char} {cs : List Char} (h : sep ∉ cs) :
    cutLast sep cs = none := by
  unfold cutLast
  rw [cutFirst_of_notMem (by simpa using h)]
  rfl

end Text

namespace Path

/-- What may stand between two separators: some text without a separator. -/
def IsName (name : String) : Prop := name ≠ "" ∧ '/' ∉ name.toList

instance (name : String) : Decidable (IsName name) := inferInstanceAs (Decidable (_ ∧ _))

theorem intercalate_append_singleton {dirs : List String} (hne : dirs ≠ []) (name : String) :
    "/".intercalate (dirs ++ [name]) = "/".intercalate dirs ++ "/" ++ name := by
  rw [String.intercalate_append_of_ne_nil hne (List.cons_ne_nil _ _), String.intercalate_singleton]

theorem intercalate_append_ne_empty (dirs : List String) {name : String} (h : name ≠ "") :
    "/".intercalate (dirs ++ [name]) ≠ "" := by
  by_cases hne : dirs = []
  · rwa [hne, List.nil_append, String.intercalate_singleton]
  · rw [intercalate_append_singleton hne]
    intro hempty
    exact h (String.append_eq_empty_iff.mp hempty).2

theorem intercalate_ne_empty {names : List String} (hnames : ∀ name ∈ names, IsName name)
    (hne : names ≠ []) : "/".intercalate names ≠ "" := by
  rw [← List.dropLast_concat_getLast hne]
  exact intercalate_append_ne_empty _ (hnames _ (List.getLast_mem hne)).1

theorem join_of_ne_empty {dir : String} (h : dir ≠ "") (name : String) :
    join dir name = dir ++ "/" ++ name := if_neg (by simpa using h)

/-- A name joined onto the path of a directory gives the path of the longer list. -/
theorem join_intercalate {names : List String} (hnames : ∀ name ∈ names, IsName name)
    (name : String) : join ("/".intercalate names) name = "/".intercalate (names ++ [name]) := by
  by_cases h : names = []
  · subst h
    simp [join]
  · rw [join_of_ne_empty (intercalate_ne_empty hnames h), intercalate_append_singleton h]

/-- So names joined one by one give the path of them all. -/
theorem foldl_join_intercalate {names rest : List String} (hnames : ∀ name ∈ names, IsName name)
    (hrest : ∀ name ∈ rest, IsName name) :
    rest.foldl join ("/".intercalate names) = "/".intercalate (names ++ rest) := by
  induction rest generalizing names with
  | nil => rw [List.foldl_nil, List.append_nil]
  | cons name rest ih =>
    obtain ⟨hname, hrest⟩ := List.forall_mem_cons.mp hrest
    have hlonger : ∀ other ∈ names ++ [name], IsName other :=
      List.forall_mem_append.mpr ⟨hnames, List.forall_mem_singleton.mpr hname⟩
    rw [List.foldl_cons, join_intercalate hnames, ih hlonger hrest, List.append_assoc,
      List.singleton_append]

/-- A segment has no separator in it; it may be empty, or a point. -/
theorem slash_notMem_of_mem_segments {path segment : String} (h : segment ∈ segments path) :
    '/' ∉ segment.toList := by
  have hsplit : ∀ cs : List Char, ∀ piece ∈ cs.splitOn '/', '/' ∉ piece := by
    intro cs
    induction cs with
    | nil => simp [List.splitOn_nil]
    | cons c cs ih =>
      rw [List.splitOn_cons_eq_if_modifyHead]
      split
      · simpa using ih
      · next hc =>
        intro piece hpiece
        cases hrest : cs.splitOn '/' with
        | nil => exact absurd hrest (List.splitOn_ne_nil _ _)
        | cons first rest =>
          rw [hrest] at hpiece ih
          rcases List.mem_cons.mp hpiece with rfl | hpiece
          · have hne : '/' ≠ c := fun heq => hc (beq_iff_eq.mpr heq.symm)
            simpa [hne] using ih first (List.mem_cons_self ..)
          · exact ih piece (List.mem_cons_of_mem _ hpiece)
  obtain ⟨piece, hpiece, rfl⟩ := List.mem_map.mp h
  rw [String.toList_ofList]
  exact hsplit _ piece hpiece

theorem segments_ne_nil (path : String) : segments path ≠ [] := by
  unfold segments
  simp

/-- A path is its segments with separators between them. -/
theorem intercalate_segments (path : String) : "/".intercalate (segments path) = path := by
  have hmap : (segments path).map String.toList = path.toList.splitOn '/' := by
    unfold segments
    rw [List.map_map]
    simp
  have hsep : "/".toList = ['/'] := rfl
  rw [← String.toList_inj, String.toList_intercalate, hmap, hsep, List.intercalate_splitOn]

theorem segments_intercalate_of_notMem {parts : List String}
    (hparts : ∀ part ∈ parts, '/' ∉ part.toList) (hne : parts ≠ []) :
    segments ("/".intercalate parts) = parts := by
  have hslash : ∀ cs ∈ parts.map String.toList, '/' ∉ cs := by
    intro cs hcs
    obtain ⟨part, hpart, rfl⟩ := List.mem_map.mp hcs
    exact hparts part hpart
  unfold segments
  rw [String.toList_intercalate]
  have hsep : "/".toList = ['/'] := rfl
  rw [hsep, List.splitOn_intercalate _ hslash (by simpa using hne), List.map_map]
  simp

/-- The names of a path can be read off its text. -/
theorem segments_intercalate {names : List String} (hnames : ∀ name ∈ names, IsName name)
    (hne : names ≠ []) : segments ("/".intercalate names) = names :=
  segments_intercalate_of_notMem (fun name hname => (hnames name hname).2) hne

/-- **Different lists of names are different paths.** -/
theorem intercalate_injective {names others : List String}
    (hnames : ∀ name ∈ names, IsName name) (hothers : ∀ name ∈ others, IsName name)
    (h : "/".intercalate names = "/".intercalate others) : names = others := by
  by_cases hn : names = []
  · subst hn
    by_cases ho : others = []
    · exact ho.symm
    · exact absurd h.symm (intercalate_ne_empty hothers ho)
  · by_cases ho : others = []
    · subst ho
      exact absurd h (intercalate_ne_empty hnames hn)
    · rw [← segments_intercalate hnames hn, h, segments_intercalate hothers ho]

/-! ## Directories and files -/

/-- Text behind a path is text behind its last segment. -/
theorem intercalate_append_text (dirs : List String) (name tail : String) :
    "/".intercalate (dirs ++ [name]) ++ tail = "/".intercalate (dirs ++ [name ++ tail]) := by
  by_cases hne : dirs = []
  · subst hne
    simp
  · rw [intercalate_append_singleton hne, intercalate_append_singleton hne, String.append_assoc]

/-- The last separator of a path is the one before its last segment. -/
theorem cutLast_intercalate (dirs : List String) {name : String} (h : '/' ∉ name.toList) :
    Text.cutLast '/' ("/".intercalate (dirs ++ [name])).toList =
      if dirs = [] then none else some (("/".intercalate dirs).toList, name.toList) := by
  split
  · next hnil =>
    rw [hnil, List.nil_append, String.intercalate_singleton, Text.cutLast_of_notMem h]
  · next hne =>
    have hlist : ("/".intercalate (dirs ++ [name])).toList =
        ("/".intercalate dirs).toList ++ '/' :: name.toList := by
      rw [intercalate_append_singleton hne]
      simp only [String.toList_append, List.append_assoc]
      rfl
    rw [hlist, Text.cutLast_append_cons _ h]

theorem directoryOf_intercalate (dirs : List String) {name : String} (h : '/' ∉ name.toList) :
    directoryOf ("/".intercalate (dirs ++ [name])) = "/".intercalate dirs := by
  unfold directoryOf
  rw [cutLast_intercalate dirs h]
  split
  · next hnil =>
    rw [hnil]
    rfl
  · exact String.ofList_toList

theorem fileNameOf_intercalate (dirs : List String) {name : String} (h : '/' ∉ name.toList) :
    fileNameOf ("/".intercalate (dirs ++ [name])) = name := by
  unfold fileNameOf
  rw [cutLast_intercalate dirs h]
  split
  · next hnil =>
    rw [hnil, List.nil_append, String.intercalate_singleton]
    rfl
  · exact String.ofList_toList

/-- The directory of a path has all of its segments but the last. -/
theorem directoryOf_eq (path : String) :
    directoryOf path = "/".intercalate (segments path).dropLast := by
  have hlast := slash_notMem_of_mem_segments (List.getLast_mem (segments_ne_nil path))
  rw [← directoryOf_intercalate (segments path).dropLast hlast, List.dropLast_concat_getLast,
    intercalate_segments]

/-! ## Extensions -/

/-- The name of a file ends its path. -/
theorem exists_append_fileNameOf (path : String) :
    ∃ front, path.toList = front ++ (fileNameOf path).toList := by
  unfold fileNameOf
  cases h : Text.cutLast '/' path.toList with
  | none => exact ⟨[], rfl⟩
  | some cut =>
    obtain ⟨dir, name⟩ := cut
    refine ⟨dir ++ ['/'], ?_⟩
    simpa using Text.eq_of_cutLast h

/-- An extension ends its path, after a point. -/
theorem exists_append_extension {path ext : String} (h : extension? path = some ext) :
    ∃ stem, path.toList = stem ++ '.' :: ext.toList := by
  unfold extension? at h
  split at h
  · next first rest back hcut =>
    cases h
    obtain ⟨front, hfront⟩ := exists_append_fileNameOf path
    refine ⟨front ++ first :: rest, ?_⟩
    rw [hfront, Text.eq_of_cutLast hcut, String.toList_ofList, List.append_assoc]
  · cases h

/-- What precedes an extension and its point is cut off inside the path. -/
theorem stem_append_extension {path ext : String} (h : extension? path = some ext) :
    ext.length + 1 ≤ path.length ∧
      String.ofList (path.toList.take (path.length - ext.length - 1)) ++ "." ++ ext = path := by
  obtain ⟨stem, hstem⟩ := exists_append_extension h
  have hlength : path.length = stem.length + (ext.length + 1) := by
    rw [← String.length_toList, hstem, List.length_append, List.length_cons, String.length_toList]
  have htake : path.toList.take (path.length - ext.length - 1) = stem := by
    rw [hstem, hlength]
    exact List.take_left' (by omega)
  refine ⟨by omega, ?_⟩
  rw [htake, ← String.toList_inj]
  simp [hstem]

/-- An extension has a point and some name before it. -/
theorem exists_stem {path ext : String} (h : extension? path = some ext) :
    ∃ stem, stem ≠ "" ∧ fileNameOf path = stem ++ "." ++ ext := by
  unfold extension? at h
  split at h
  · next first rest back hcut =>
    cases h
    refine ⟨String.ofList (first :: rest), by simp, ?_⟩
    rw [← String.toList_inj, Text.eq_of_cutLast hcut]
    simp
  · cases h

end Path
end Dossier
