import Dossier.Extract.Python
import Dossier.Proofs.Walk
import Mathlib.Data.List.DropRight

/-!
# Where relative imports lead

What an import may refer to is found from the texts of two paths, the importer's and the
specifier's. **`resolve_lexical`** says what comes out of this: no candidate lies outside the
repository, detours in a specifier of a script make no difference, and the points of a Python
specifier go up level by level. **`resolve_directory`** says which directories an import of a script
can stand for: all but the root, whose index file is never found.
-/

set_option autoImplicit false

namespace Dossier.Extract

/-! ## Scripts -/

namespace Script

open Dossier.Path

theorem slash_notMem_extension {ext : String} (h : ext ∈ extensions) : '/' ∉ ext.toList := by
  revert ext
  decide

/-- A text with a point inside, and more behind it, is no point and no two points. -/
theorem isOrdinary_of_extension {stem ext : String} (hne : stem ≠ "") (hslash : '/' ∉ stem.toList)
    (hext : ext ∈ extensions) : IsOrdinary (stem ++ "." ++ ext) := by
  have hlong : 2 < (stem ++ "." ++ ext).length := by
    have hstem : 0 < stem.length := Nat.pos_of_ne_zero fun h => hne (by simpa using h)
    have hlength : 2 ≤ ext.length := by
      revert ext
      decide
    have hpoint : ".".length = 1 := rfl
    rw [String.length_append, String.length_append]
    omega
  have hother : ∀ text : String, text.length ≤ 2 → stem ++ "." ++ ext ≠ text := by
    rintro text htext rfl
    exact absurd hlong (Nat.not_lt.mpr htext)
  have hnone : '/' ∉ (stem ++ "." ++ ext).toList := by
    have hpoint : '/' ∉ ".".toList := by decide
    simp only [String.toList_append, List.mem_append, not_or]
    exact ⟨⟨hslash, hpoint⟩, slash_notMem_extension hext⟩
  exact ⟨⟨hother "" (by decide), hnone⟩, hother "." (by decide), hother ".." (by decide)⟩

theorem isOrdinary_index {ext : String} (hext : ext ∈ extensions) :
    IsOrdinary ("index." ++ ext) := by
  revert ext
  decide

/-- A path without an extension that an import of a script can spell out. -/
def Unspelled (target : String) : Prop :=
  ∀ ext, extension? target = some ext → ext ∉ extensions ∧ ext ≠ "json"

instance (target : String) : Decidable (Unspelled target) :=
  inferInstanceAs (Decidable (∀ ext, extension? target = some ext → _ ∧ _))

theorem candidates_of_unspelled {target : String} (h : Unspelled target) :
    candidates target = candidates.expand target := by
  unfold candidates
  split
  · next ext hext =>
    obtain ⟨hknown, hjson⟩ := h ext hext
    rw [if_neg (by simp [hknown, hjson])]
  · rfl

/-- A candidate is the target, the target with another extension, or an expansion of it. -/
theorem exists_of_mem_candidates {target candidate : String} (h : candidate ∈ candidates target) :
    candidate = target ∨
      (∃ stem ext, extension? target = some ext ∧ stem ++ "." ++ ext = target ∧
        ∃ other ∈ extensions, candidate = stem ++ "." ++ other) ∨
      candidate ∈ candidates.expand target := by
  unfold candidates at h
  split at h
  · next ext hext =>
    split at h
    · rcases List.mem_cons.mp h with h | h
      · exact .inl h
      · split at h
        · have hstem := (stem_append_extension hext).2
          rcases List.mem_cons.mp h with rfl | h
          · refine .inr (.inl ⟨_, ext, hext, hstem, "ts", by decide, ?_⟩)
            rw [String.append_assoc]
            rfl
          · obtain rfl := List.mem_singleton.mp h
            refine .inr (.inl ⟨_, ext, hext, hstem, "tsx", by decide, ?_⟩)
            rw [String.append_assoc]
            rfl
        · exact absurd h List.not_mem_nil
    · exact .inr (.inr h)
  · exact .inr (.inr h)

theorem mem_expand {target candidate : String} :
    candidate ∈ candidates.expand target ↔ ∃ ext ∈ extensions,
      candidate = target ++ "." ++ ext ∨ candidate = join target ("index." ++ ext) := by
  unfold candidates.expand
  simp only [List.mem_append, List.mem_map]
  constructor
  · rintro (⟨ext, hext, rfl⟩ | ⟨ext, hext, rfl⟩)
    · exact ⟨ext, hext, .inl rfl⟩
    · exact ⟨ext, hext, .inr rfl⟩
  · rintro ⟨ext, hext, rfl | rfl⟩
    · exact .inl ⟨ext, hext, rfl⟩
    · exact .inr ⟨ext, hext, rfl⟩

/-- The candidates for a place inside the repository are inside as well. -/
theorem isPlain_of_mem_candidates {dest : List String} (hne : dest ≠ [])
    (hdest : ∀ name ∈ dest, IsOrdinary name) {candidate : String}
    (h : candidate ∈ candidates ("/".intercalate dest)) : IsPlain candidate := by
  obtain ⟨up, last, rfl⟩ := (List.eq_nil_or_concat' dest).resolve_left hne
  have hup : ∀ name ∈ up, IsOrdinary name := fun name hname =>
    hdest name (List.mem_append_left _ hname)
  have hlast : IsOrdinary last := hdest last (by simp)
  rcases exists_of_mem_candidates h with rfl | ⟨stem, ext, hext, hstem, other, hother, rfl⟩ | h
  · exact isPlain_concat hup hlast
  · -- The extension is cut off the last name, so the directories stay.
    obtain ⟨own, hown, hname⟩ := exists_stem hext
    rw [fileNameOf_intercalate up hlast.1.2, String.append_assoc] at hname
    have hcut : stem = "/".intercalate (up ++ [own]) := by
      rw [hname, ← intercalate_append_text, String.append_assoc] at hstem
      exact (String.append_left_inj _).mp hstem
    have hslash : '/' ∉ own.toList := by
      have hboth := hlast.1.2
      rw [hname] at hboth
      simp only [String.toList_append, List.mem_append, not_or] at hboth
      exact hboth.1
    rw [hcut, String.append_assoc, intercalate_append_text, ← String.append_assoc]
    exact isPlain_concat hup (isOrdinary_of_extension hown hslash hother)
  · obtain ⟨ext, hext, rfl | rfl⟩ := mem_expand.mp h
    · rw [String.append_assoc, intercalate_append_text, ← String.append_assoc]
      exact isPlain_concat hup (isOrdinary_of_extension hlast.1.1 hlast.1.2 hext)
    · rw [join_intercalate fun name hname => (hdest name hname).1]
      exact isPlain_concat hdest (isOrdinary_index hext)

theorem resolve_of_point {importer specifier : String} (h : specifier.toList.head? = some '.') :
    resolve importer specifier =
      (resolve? (directoryOf importer) specifier).elim [] candidates := by
  unfold resolve
  rw [h]
  rfl

theorem head?_intercalate_cons {c : Char} (hc : c ≠ '/') (first : String) (rest : List String) :
    ("/".intercalate (first :: rest)).toList.head? = some c ↔ first.toList.head? = some c := by
  cases rest with
  | nil => rw [String.intercalate_singleton]
  | cons next rest =>
    rw [String.intercalate_cons_cons]
    cases hfirst : first.toList with
    | nil => simp [hfirst, Ne.symm hc]
    | cons d ds => simp [hfirst]

/-- That the relative specifiers of a script mean places, however they are spelled. -/
structure Lexical (importer : String) : Prop where
  /-- What a specifier may refer to depends on the place to which its segments lead. -/
  placed : ∀ specifier dest, specifier.toList.head? = some '.' →
    Walk (segments importer).dropLast (segments specifier) dest → dest ≠ [] →
      resolve importer specifier = candidates ("/".intercalate dest)
  plain : ∀ specifier, specifier.toList.head? = some '.' →
    ∀ candidate ∈ resolve importer specifier, IsPlain candidate
  inside : ∀ specifier, specifier.toList.head? = some '.' →
    Climbs (segments importer).dropLast (segments specifier) → resolve importer specifier = []
  respelled : ∀ specifier, specifier.toList.head? = some '.' →
    ∀ front detour back, segments specifier = front ++ back → front ≠ [] → Detour detour →
      resolve importer ("/".intercalate (front ++ detour ++ back)) = resolve importer specifier

theorem lexical {importer : String} (himporter : IsPlain importer) : Lexical importer where
  placed := by
    intro specifier dest hpoint hwalk hne
    rw [← names_directoryOf himporter] at hwalk
    rw [resolve_of_point hpoint, resolve?_eq_some.mpr ⟨dest, hne, hwalk, rfl⟩]
    rfl
  plain := by
    intro specifier hpoint candidate h
    rw [resolve_of_point hpoint] at h
    cases htarget : resolve? (directoryOf importer) specifier with
    | none =>
      rw [htarget] at h
      exact absurd h List.not_mem_nil
    | some target =>
      rw [htarget] at h
      obtain ⟨dest, hne, hwalk, rfl⟩ := resolve?_eq_some.mp htarget
      rw [names_directoryOf himporter] at hwalk
      refine isPlain_of_mem_candidates hne (hwalk.forall_mem ?_ ?_) h
      · exact fun name hname => himporter name (List.dropLast_subset _ hname)
      · exact fun segment hsegment hne hpoint hpoints =>
          ⟨⟨hne, slash_notMem_of_mem_segments hsegment⟩, hpoint, hpoints⟩
  inside := by
    intro specifier hpoint hclimbs
    rw [← names_directoryOf himporter] at hclimbs
    rw [resolve_of_point hpoint, resolve?_eq_none.mpr (.inl hclimbs)]
    rfl
  respelled := by
    intro specifier hpoint front detour back hsplit hne hdetour
    have hspecifier : specifier = "/".intercalate (front ++ back) := by
      rw [← hsplit, intercalate_segments]
    have hslash : ∀ segment ∈ front ++ back, '/' ∉ segment.toList := by
      rw [← hsplit]
      exact fun segment => slash_notMem_of_mem_segments
    -- The first segment stays, so the specifier is still a relative one.
    have hagain : ("/".intercalate (front ++ detour ++ back)).toList.head? = some '.' := by
      obtain ⟨first, more, rfl⟩ := List.exists_cons_of_ne_nil hne
      rw [hspecifier, List.cons_append, head?_intercalate_cons (by decide)] at hpoint
      rwa [List.cons_append, List.cons_append, head?_intercalate_cons (by decide)]
    rw [resolve_of_point hpoint, resolve_of_point hagain, hspecifier,
      resolve?_detour hdetour hne hslash]

end Script

/-! ## Python modules -/

namespace Python

open Dossier.Path

/-- One point, another for each level, and then the parts of a module with points between. -/
def specifier (levels : Nat) (parts : List String) : String :=
  String.ofList (List.replicate (levels + 1) '.') ++ ".".intercalate parts

/-- The files of a module with such parts below a directory; without parts, of its package. -/
def filesOf (base parts : List String) : List String :=
  if parts = [] then ["/".intercalate (base ++ ["__init__.py"])]
  else
    ["/".intercalate (base ++ ["/".intercalate parts ++ ".py"]),
      "/".intercalate (base ++ ["/".intercalate parts, "__init__.py"])]

/-- So many levels up from a directory are so many of its names less. -/
theorem climb_intercalate {dirs : List String} (hdirs : ∀ name ∈ dirs, IsName name)
    (levels : Nat) : climb ("/".intercalate dirs) levels =
      if levels ≤ dirs.length then some ("/".intercalate (dirs.rdrop levels)) else none := by
  induction levels generalizing dirs with
  | zero => simp [climb]
  | succ levels ih =>
    rcases List.eq_nil_or_concat' dirs with rfl | ⟨up, name, rfl⟩
    · rfl
    · have hup : ∀ n ∈ up, IsName n := fun n hn => hdirs n (List.mem_append_left _ hn)
      have hempty : ("/".intercalate (up ++ [name])).isEmpty = false := by
        simpa using intercalate_ne_empty hdirs (by simp)
      rw [climb, hempty, directoryOf_intercalate up (hdirs name (by simp)).2, ih hup,
        List.rdrop_concat_succ]
      simp

/-- The points between the parts of a module are separators of its path. -/
theorem map_intercalate {parts : List String} (hparts : ∀ part ∈ parts, '.' ∉ part.toList) :
    String.ofList ((".".intercalate parts).toList.map fun c => if c = '.' then '/' else c) =
      "/".intercalate parts := by
  have hpart : ∀ part ∈ parts.map String.toList,
      part.map (fun c => if c = '.' then '/' else c) = part := by
    intro part hpart
    obtain ⟨text, htext, rfl⟩ := List.mem_map.mp hpart
    refine (List.map_congr_left fun c hc => if_neg ?_).trans (List.map_id _)
    rintro rfl
    exact hparts text htext hc
  rw [← String.toList_inj, String.toList_ofList, String.toList_intercalate,
    String.toList_intercalate]
  generalize parts.map String.toList = texts at hpart
  induction texts with
  | nil => rfl
  | cons text rest ih =>
    have htext := hpart text (List.mem_cons_self ..)
    have hrest := ih fun t ht => hpart t (List.mem_cons_of_mem _ ht)
    cases rest with
    | nil => simpa using htext
    | cons next rest =>
      simp only [List.intercalate_cons_cons, List.map_append, htext, hrest]
      rfl

/-- Where a module follows, the points come to an end. -/
theorem module_head {parts : List String}
    (hparts : ∀ part ∈ parts, part ≠ "" ∧ '.' ∉ part.toList) :
    ∀ c ∈ (".".intercalate parts).toList.head?, (c == '.') = false := by
  intro c hc
  cases parts with
  | nil => cases hc
  | cons part rest =>
    obtain ⟨hpart, hpoint⟩ := hparts part (List.mem_cons_self ..)
    have hfirst : c ∈ part.toList.head? := by
      cases rest with
      | nil => simpa using hc
      | cons next rest =>
        rw [String.intercalate_cons_cons, String.toList_append, String.toList_append,
          List.append_assoc, List.head?_append_of_ne_nil _ (by simpa using hpart)] at hc
        exact hc
    rw [beq_eq_false_iff_ne]
    rintro rfl
    exact hpoint (List.mem_of_mem_head? hfirst)

/-- What is looked for below the directory to which the points lead. -/
theorem resolve_points (importer : String) (levels : Nat) {module : List Char}
    (hmodule : ∀ c ∈ module.head?, (c == '.') = false) :
    resolve importer (String.ofList (List.replicate (levels + 1) '.' ++ module)) =
      match climb (directoryOf importer) levels with
      | none => []
      | some base =>
        if module = [] then [join base "__init__.py"]
        else
          let target := join base (String.ofList (module.map fun c => if c = '.' then '/' else c))
          [target ++ ".py", join target "__init__.py"] := by
  have hpoints : ∀ c ∈ List.replicate (levels + 1) '.', (c == '.') = true := by
    intro c hc
    rw [List.eq_of_mem_replicate hc]
    rfl
  have htake : (List.replicate (levels + 1) '.' ++ module).takeWhile (· == '.') =
      List.replicate (levels + 1) '.' := by
    rw [List.takeWhile_append_of_pos hpoints]
    cases module <;> simp_all
  have hdrop : (List.replicate (levels + 1) '.' ++ module).dropWhile (· == '.') = module := by
    rw [List.dropWhile_append_of_pos hpoints]
    cases module <;> simp_all
  unfold resolve
  rw [String.toList_ofList]
  dsimp only
  rw [htake, hdrop, List.length_replicate]
  dsimp only
  cases climb (directoryOf importer) levels with
  | none => rfl
  | some base => cases module <;> rfl

/-- A specifier means the files of its module, so many levels above the importer. -/
theorem resolve_specifier {importer : String} (himporter : IsPlain importer) (levels : Nat)
    {parts : List String} (hparts : ∀ part ∈ parts, part ≠ "" ∧ '.' ∉ part.toList) :
    resolve importer (specifier levels parts) =
      if levels ≤ (segments importer).dropLast.length then
        filesOf ((segments importer).dropLast.rdrop levels) parts else [] := by
  have hdirs : ∀ dir ∈ (segments importer).dropLast, IsName dir := fun dir hdir =>
    (himporter dir (List.dropLast_subset _ hdir)).1
  have hbase : ∀ dir ∈ (segments importer).dropLast.rdrop levels, IsName dir :=
    fun dir hdir => hdirs dir (List.mem_of_mem_take hdir)
  have htext : specifier levels parts =
      String.ofList (List.replicate (levels + 1) '.' ++ (".".intercalate parts).toList) := by
    simp only [specifier, String.ofList_append, String.ofList_toList]
  rw [htext, resolve_points importer levels (module_head hparts), directoryOf_eq,
    climb_intercalate hdirs]
  by_cases hlevels : levels ≤ (segments importer).dropLast.length
  · -- Joining does not put a `/` in front when the directory is the root.
    rw [if_pos hlevels, if_pos hlevels]
    dsimp only
    unfold filesOf
    by_cases hne : parts = []
    · rw [if_pos hne, hne]
      exact congrArg ([·]) (join_intercalate hbase _)
    · have hpath := map_intercalate fun part hpart => (hparts part hpart).2
      have hmodule : "/".intercalate parts ≠ "" := by
        rw [← List.dropLast_concat_getLast hne]
        exact intercalate_append_ne_empty _ (hparts _ (List.getLast_mem hne)).1
      have hsome : (".".intercalate parts).toList ≠ [] := by
        intro hnil
        rw [hnil] at hpath
        exact hmodule hpath.symm
      rw [if_neg hne, if_neg hsome, hpath, join_intercalate hbase, intercalate_append_text,
        join_of_ne_empty (intercalate_append_ne_empty _ hmodule),
        ← intercalate_append_singleton (by simp), List.append_assoc]
      rfl
  · rw [if_neg hlevels, if_neg hlevels]

/-- That the points of a relative import go up level by level, and its module down again. -/
structure Lexical (importer : String) : Prop where
  outside : ∀ levels parts, (∀ part ∈ parts, part ≠ "" ∧ '.' ∉ part.toList) →
    (resolve importer (specifier levels parts) = [] ↔
      (segments importer).dropLast.length < levels)
  package : ∀ levels, levels ≤ (segments importer).dropLast.length →
    resolve importer (specifier levels []) =
      ["/".intercalate ((segments importer).dropLast.rdrop levels ++ ["__init__.py"])]
  module : ∀ levels parts, (∀ part ∈ parts, part ≠ "" ∧ '.' ∉ part.toList) → parts ≠ [] →
    levels ≤ (segments importer).dropLast.length →
    resolve importer (specifier levels parts) =
      ["/".intercalate ((segments importer).dropLast.rdrop levels ++
          ["/".intercalate parts ++ ".py"]),
        "/".intercalate ((segments importer).dropLast.rdrop levels ++
          ["/".intercalate parts, "__init__.py"])]

theorem lexical {importer : String} (himporter : IsPlain importer) : Lexical importer where
  outside := by
    intro levels parts hparts
    have hfiles : filesOf ((segments importer).dropLast.rdrop levels) parts ≠ [] := by
      unfold filesOf
      split <;> simp
    rw [resolve_specifier himporter levels hparts]
    split
    · next hlevels => exact iff_of_false hfiles (Nat.not_lt.mpr hlevels)
    · next hlevels => exact iff_of_true rfl (Nat.not_le.mp hlevels)
  package := by
    intro levels hlevels
    rw [resolve_specifier himporter levels (by simp), if_pos hlevels]
    rfl
  module := by
    intro levels parts hparts hne hlevels
    rw [resolve_specifier himporter levels hparts, if_pos hlevels]
    exact if_neg hne

end Python

/-- **Relative imports mean places inside the repository, found from texts alone.** -/
theorem resolve_lexical {importer : String} (h : Path.IsPlain importer) :
    Script.Lexical importer ∧ Python.Lexical importer :=
  ⟨Script.lexical h, Python.lexical h⟩

/-- A detour, a climb and an import of a package, all from one directory. -/
theorem resolve_lexical_sampleImporter : Path.IsPlain "src/api/views" ∧
    Script.resolve "src/api/views" "./x/../../util.js" =
      Script.resolve "src/api/views" "./../util.js" ∧
    Script.resolve "src/api/views" "../.././../out" = [] ∧
    Python.resolve "src/api/views" "..shared.util" =
      ["src/shared/util.py", "src/shared/util/__init__.py"] := by
  have hplain : Path.IsPlain "src/api/views" := by decide
  obtain ⟨hscript, hpython⟩ := resolve_lexical hplain
  refine ⟨hplain, ?_, ?_, ?_⟩
  · exact hscript.respelled "./../util.js" (by decide) ["."] ["x", ".."] ["..", "util.js"]
      (by decide) (by decide) (.back (by decide))
  · exact hscript.inside _ (by decide) ⟨["..", "..", ".", ".."], by decide, by decide⟩
  · exact hpython.module 1 ["shared", "util"] (by decide) (by decide) (by decide)

/-! ## Index files -/

namespace Script

open Dossier.Path

/--
**A directory stands for its index file, unless it is the root.** The root is not told apart from
what lies outside.
-/
theorem resolve_directory (importer : String) {specifier : String}
    (hpoint : specifier.toList.head? = some '.') :
    (∀ dest, Walk (names (directoryOf importer)) (segments specifier) dest → dest ≠ [] →
        Unspelled ("/".intercalate dest) → ∀ ext ∈ extensions,
          "/".intercalate (dest ++ ["index." ++ ext]) ∈ resolve importer specifier) ∧
      (Walk (names (directoryOf importer)) (segments specifier) [] →
        resolve importer specifier = []) ∧
      (resolve? (directoryOf importer) specifier = none ↔
        Climbs (names (directoryOf importer)) (segments specifier) ∨
          Walk (names (directoryOf importer)) (segments specifier) []) := by
  refine ⟨?_, ?_, resolve?_eq_none⟩
  · intro dest hwalk hne hdest ext hext
    have hnames : ∀ name ∈ dest, IsName name :=
      hwalk.forall_mem (fun _ => isName_of_mem_names) fun segment hsegment hne _ _ =>
        ⟨hne, slash_notMem_of_mem_segments hsegment⟩
    rw [resolve_of_point hpoint, resolve?_eq_some.mpr ⟨dest, hne, hwalk, rfl⟩]
    show _ ∈ candidates _
    rw [candidates_of_unspelled hdest, mem_expand]
    exact ⟨ext, hext, .inr (join_intercalate hnames _).symm⟩
  · intro hroot
    rw [resolve_of_point hpoint, resolve?_eq_none.mpr (.inr hroot)]
    rfl

/-- From below, a directory that is named is found, and the root is not. -/
theorem resolve_directory_sampleSpecifiers :
    "./core".toList.head? = some '.' ∧ "src/core/index.ts" ∈ resolve "src/a.ts" "./core" ∧
      "./..".toList.head? = some '.' ∧ resolve "src/a.ts" "./.." = [] := by
  have hcore : Walk (names (directoryOf "src/a.ts")) (segments "./core") ["src", "core"] :=
    walk_iff.mpr (by decide)
  have hroot : Walk (names (directoryOf "src/a.ts")) (segments "./..") [] :=
    walk_iff.mpr (by decide)
  refine ⟨by decide, ?_, by decide, ?_⟩
  · exact (resolve_directory "src/a.ts" (by decide)).1 _ hcore (by decide) (by decide) "ts"
      (by decide)
  · exact (resolve_directory "src/a.ts" (by decide)).2.1 hroot

/-- The index file of the root is not found from the root, as a package's own file is. -/
theorem not_every_directory_indexed :
    (¬ ∀ importer specifier : String, specifier.toList.head? = some '.' →
      ∀ dest, Walk (names (directoryOf importer)) (segments specifier) dest →
        Unspelled ("/".intercalate dest) → ∀ ext ∈ extensions,
          "/".intercalate (dest ++ ["index." ++ ext]) ∈ resolve importer specifier) ∧
      Python.resolve "a.py" "." = ["__init__.py"] := by
  refine ⟨fun h => ?_, by decide⟩
  have hwalk : Walk (names (directoryOf "a.ts")) (segments ".") [] := walk_iff.mpr (by decide)
  have hfound := h "a.ts" "." (by decide) [] hwalk (by decide) "ts" (by decide)
  have hnone : resolve "a.ts" "." = [] := by decide
  rw [hnone] at hfound
  exact absurd hfound List.not_mem_nil

end Script
end Dossier.Extract
