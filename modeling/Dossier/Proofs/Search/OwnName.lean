import Dossier.Proofs.Extract.Names
import Dossier.Proofs.Pattern.Language
import Dossier.Proofs.Search.Ranking
import Dossier.Proofs.Text.Lowercase

/-!
# Searching for a name

Names in scripts may have dollar signs in them, which terms have not. So the term of a name is the
name without them, and the name still holds it when they stand at its ends only: lower case goes on
afresh behind a dollar sign, so what is between the ends is the same with them and without them. A
dollar sign between other characters parts the name (`Parted`), and then no piece of it is as long as
the term (`holds_normalizeTerm_iff`). **`search_ownName`** says what this means for a search by the
name.
-/

set_option autoImplicit false

namespace Dossier.Search

open Text

/-! ## Names -/

/-- All characters are word characters or dollar signs. -/
def IsScriptName (name : String) : Prop := ∀ x ∈ name.toList, isWord x = true ∨ x = '$'

/-- A dollar sign stands between other characters. -/
def Parted (cs : List Char) : Prop :=
  ∃ u v, cs = u ++ '$' :: v ∧ (∃ x ∈ u, x ≠ '$') ∧ ∃ x ∈ v, x ≠ '$'

/-- The names that a script can declare are of this kind. -/
theorem isScriptName_of_matchesWhole {name : String}
    (h : Extract.Script.name.matchesWhole name = true) : IsScriptName name := by
  rw [Extract.Script.name, ((Pattern.hasLanguage_one fun _ => Iff.rfl).seq
    (Pattern.hasLanguage_run fun _ => Iff.rfl)).matchesWhole_iff, Language.mem_mul] at h
  obtain ⟨first, ⟨x, hx, rfl⟩, rest, hrest, hname⟩ := h
  intro y hy
  rw [← hname, List.singleton_append, List.mem_cons] at hy
  rcases hy with rfl | hy
  · simp only [Pattern.CharSet.has, Pattern.CharSet.ofList, Bool.or_eq_true, beq_iff_eq] at hx
    rcases hx with hletter | rfl | rfl
    · exact .inl (Extract.isWord_of_asciiLetter hletter)
    · exact .inl rfl
    · exact .inr rfl
  · have hy := Pattern.mem_allChars.mp hrest y hy
    simpa only [Pattern.CharSet.has, Bool.or_eq_true, beq_iff_eq] using hy

/-! ## Parts of names -/

/-- A list is dollar signs, then what neither begins nor ends with one, and dollar signs again. -/
theorem exists_ends (cs : List Char) : ∃ front core back : List Char,
    cs = front ++ (core ++ back) ∧ (∀ x ∈ front, x = '$') ∧ (∀ x ∈ back, x = '$') ∧
      core.head? ≠ some '$' ∧ core.getLast? ≠ some '$' := by
  have hback := List.rdropWhile_append_rtakeWhile (p := (· == '$')) (l := cs.dropWhile (· == '$'))
  have hfirst := List.head?_dropWhile_not (· == '$') cs
  refine ⟨cs.takeWhile (· == '$'), (cs.dropWhile (· == '$')).rdropWhile (· == '$'),
    (cs.dropWhile (· == '$')).rtakeWhile (· == '$'), ?_, fun x hx => ?_, fun x hx => ?_,
    fun hhead => ?_, fun hlast => ?_⟩
  · rw [hback, List.takeWhile_append_dropWhile]
  · exact beq_iff_eq.mp (List.mem_takeWhile_imp (p := (· == '$')) hx)
  · exact beq_iff_eq.mp (List.mem_rtakeWhile_imp (p := (· == '$')) hx)
  · rw [← hback, List.head?_append, hhead] at hfirst
    cases hfirst
  · obtain ⟨hne, hlast⟩ := List.mem_getLast?_eq_getLast hlast
    exact List.rdropWhile_last_not (· == '$') _ hne (beq_iff_eq.mpr hlast.symm)

/-- What stands between the dollar signs at the ends, if none stands between other characters. -/
theorem exists_core {cs : List Char} (h : ¬ Parted cs) :
    ∃ i core j, cs = List.replicate i '$' ++ (core ++ List.replicate j '$') ∧ '$' ∉ core := by
  obtain ⟨front, core, back, rfl, hfront, hback, hfirst, hlast⟩ := exists_ends cs
  refine ⟨front.length, core, back.length, ?_, fun hmem => ?_⟩
  · rw [← List.eq_replicate_of_mem hfront, ← List.eq_replicate_of_mem hback]
  · obtain ⟨u, v, rfl⟩ := List.append_of_mem hmem
    -- Other characters are at the ends of the core, so this dollar sign stands between them.
    obtain ⟨x, hx, hxne⟩ : ∃ x ∈ u, x ≠ '$' := by
      cases u with
      | nil => exact absurd rfl hfirst
      | cons x u => exact ⟨x, List.mem_cons_self, fun heq => hfirst (by simp [heq])⟩
    obtain ⟨y, hy, hyne⟩ : ∃ y ∈ v, y ≠ '$' := by
      rcases List.eq_nil_or_concat v with rfl | ⟨v, y, rfl⟩
      · exact absurd List.getLast?_concat hlast
      · refine ⟨y, by simp, fun heq => hlast ?_⟩
        simp [heq, List.getLast?_cons]
    exact h ⟨front ++ u, v ++ back, by simp,
      ⟨x, List.mem_append_right front hx, hxne⟩, ⟨y, List.mem_append_left back hy, hyne⟩⟩

/-- What has no dollar sign is on one side of it. -/
theorem infix_of_notMem {t xs ys : List Char} (h : t <:+: xs ++ '$' :: ys) (ht : '$' ∉ t) :
    t <:+: xs ∨ t <:+: ys := by
  have hnone {l : List Char} (hl : l <+: '$' :: ys) (hdollar : '$' ∉ l) : l = [] := by
    rcases List.prefix_cons_iff.mp hl with rfl | ⟨rest, rfl, -⟩
    · rfl
    · exact absurd List.mem_cons_self hdollar
  rcases List.infix_append_iff.mp h with hleft | hright | ⟨l, r, rfl, hl, hr⟩
  · exact .inl hleft
  · rcases List.infix_cons_iff.mp hright with hfirst | hright
    · rw [hnone hfirst ht]
      exact .inl List.nil_infix
    · exact .inr hright
  · rw [hnone hr fun hx => ht (List.mem_append_right l hx), List.append_nil]
    exact .inl hl.isInfix

/-- Other characters than dollar signs leave some in lower case. -/
theorem countP_lowerFrom_pos {cs : List Char} {x : Char} (hx : x ∈ cs) (hne : x ≠ '$') :
    0 < (lowerFrom [] cs).countP (· != '$') := by
  refine Nat.pos_of_ne_zero fun hzero => hne ?_
  have hnone := (forall_mem_lowerFrom (fun _ _ h => h.notDollar_eq) [] cs).mp fun d hd =>
    Bool.eq_false_iff.mpr (List.countP_eq_zero.mp hzero d hd)
  simpa using hnone x hx

/-! ## The term of a name -/

section Names

variable {name : String} (hname : IsScriptName name)
include hname

theorem isBlank_of_mem_name : ∀ x ∈ name.toList, isBlank x = false := by
  intro x hx
  rcases hname x hx with hword | rfl
  · exact isBlank_of_isWord hword
  · rfl

/-- A name is a query of one term at most. -/
theorem terms_name (hterms : terms name ≠ []) : terms name = [normalizeTerm name] := by
  have hne : name ≠ "" := by
    rintro rfl
    exact hterms rfl
  have hwords := words_of_not_blank (isBlank_of_mem_name hname) hne
  have hall : terms name = [normalizeTerm name].filter isTelling := by
    rw [terms, hwords, List.map_singleton]
  rw [hall] at hterms ⊢
  exact List.filter_eq_self.mpr fun term hterm => by
    by_contra htelling
    rw [List.mem_singleton.mp hterm] at htelling
    exact hterms (List.filter_cons_of_neg htelling)

theorem filter_isWord_name : name.toList.filter isWord = name.toList.filter (· != '$') := by
  refine List.filter_congr fun x hx => ?_
  rcases hname x hx with hword | rfl
  · have hne : x ≠ '$' := by
      rintro rfl
      cases hword
    rw [hword]
    exact (bne_iff_ne.mpr hne).symm
  · rfl

theorem toList_normalizeTerm :
    (normalizeTerm name).toList = lowerFrom [] (name.toList.filter (· != '$')) := by
  rw [normalizeTerm, toList_lowercase, String.toList_ofList, filter_isWord_name hname]

theorem dollar_notMem_normalizeTerm : '$' ∉ (normalizeTerm name).toList := by
  have hnone : ∀ d ∈ lowerFrom [] (name.toList.filter (· != '$')), (d == '$') = false := by
    rw [forall_mem_lowerFrom fun _ _ h => h.isDollar_eq]
    intro x hx
    simpa using (List.mem_filter.mp hx).2
  rw [toList_normalizeTerm hname]
  exact fun hmem => absurd (hnone '$' hmem) (by decide)

/-- **A name that is not parted holds its term.** -/
theorem holds_of_not_parted (h : ¬ Parted name.toList) :
    holds (lowercase name) (normalizeTerm name) = true := by
  obtain ⟨i, core, j, hcs, hcore⟩ := exists_core h
  have hfilter : name.toList.filter (· != '$') = core := by
    have hends (n : Nat) : (List.replicate n '$').filter (· != '$') = [] := by simp
    have hkept : core.filter (· != '$') = core := List.filter_eq_self.mpr fun x hx =>
      bne_iff_ne.mpr fun heq => hcore (heq ▸ hx)
    rw [hcs, List.filter_append, List.filter_append, hends, hends, hkept, List.nil_append,
      List.append_nil]
  have hfront : lowerFrom [] core <+: lowerFrom [] (core ++ List.replicate j '$') := by
    cases j with
    | zero => rw [List.replicate_zero, List.append_nil]
    | succ j =>
      rw [List.replicate_succ, lowerFrom_append_dollar]
      exact List.prefix_append _ _
  rw [holds_iff, toList_lowercase, toList_normalizeTerm hname, hfilter, hcs,
    lowerFrom_replicate_dollar]
  exact hfront.isInfix.trans (List.suffix_append _ _).isInfix

/-- The term has all characters of the name in lower case, but for the dollar signs. -/
theorem countP_normalizeTerm : (normalizeTerm name).toList.countP (· != '$') =
    (lowerFrom [] name.toList).countP (· != '$') := by
  have hkept (c d : Char) (hd : Lowers c d) := hd.notDollar_eq
  rw [toList_normalizeTerm hname, countP_lowerFrom hkept, countP_lowerFrom hkept,
    List.filter_filter]
  simp only [Bool.and_self]

/-- **A parted name does not hold its term**: no part has as many characters. -/
theorem not_holds_of_parted (h : Parted name.toList) :
    ¬ holds (lowercase name) (normalizeTerm name) = true := by
  obtain ⟨u, v, hcs, ⟨x, hx, hxne⟩, ⟨y, hy, hyne⟩⟩ := h
  have hcount := countP_normalizeTerm hname
  rw [hcs, lowerFrom_append_dollar, List.countP_append,
    List.countP_cons_of_neg (by decide)] at hcount
  have hu := countP_lowerFrom_pos hx hxne
  have hv := countP_lowerFrom_pos hy hyne
  rw [holds_iff, toList_lowercase, hcs, lowerFrom_append_dollar]
  intro hinfix
  rcases infix_of_notMem hinfix (dollar_notMem_normalizeTerm hname) with hpart | hpart
  · have hle := hpart.sublist.countP_le (p := (· != '$'))
    omega
  · have hle := hpart.sublist.countP_le (p := (· != '$'))
    omega

/-- **A name holds its term when it is not parted, and only then.** -/
theorem holds_normalizeTerm_iff :
    holds (lowercase name) (normalizeTerm name) = true ↔ ¬ Parted name.toList :=
  ⟨fun hholds hparted => not_holds_of_parted hname hparted hholds, holds_of_not_parted hname⟩

end Names

/-! ## Searching for a name -/

/-- With the default options a single term finds what holds it in a symbol or in the path. -/
theorem finds_iff {term : String} {c : Chunk} : finds {} [term] c = true ↔
    (∃ symbol ∈ c.symbols, holds (lowercase symbol) term = true) ∨
      holds (lowercase c.filePath) term = true := by
  simp [finds, hitsSymbols, hitsPath, hits]

theorem mem_search_iff {s : Snapshot} {c : Chunk} {query : String} : c ∈ search {} query s ↔
    c ∈ s.chunks.toList ∧ terms query ≠ [] ∧ finds {} (terms query) c = true := by
  rw [Catalog.mem_toList]
  exact mem_found

/-- **Searching for a symbol's own name finds its chunk, unless a dollar sign parts the name.** By a
parted name a chunk is found only through another symbol or its path, one that holds the name
without the dollar signs. -/
theorem search_ownName {s : Snapshot} {c : Chunk} {name : String} (hc : c ∈ s.chunks.toList)
    (hsymbol : name ∈ c.symbols) (hname : IsScriptName name) (hterms : terms name ≠ []) :
    (c ∈ search {} name s ↔ ¬ Parted name.toList ∨
      (∃ other ∈ c.symbols, other ≠ name ∧ holds (lowercase other) (normalizeTerm name) = true) ∨
        holds (lowercase c.filePath) (normalizeTerm name) = true) ∧
    (c ∈ (searchRanked {} name s).map (·.chunk) ↔ c ∈ search {} name s) := by
  refine ⟨?_, (map_chunk_ranked_perm {} name s).mem_iff⟩
  have hfound : c ∈ search {} name s ↔ finds {} [normalizeTerm name] c = true := by
    rw [mem_search_iff, terms_name hname hterms]
    simp [hc]
  rw [hfound, finds_iff]
  constructor
  · rintro (⟨symbol, hmem, hholds⟩ | hpath)
    · by_cases heq : symbol = name
      · subst heq
        exact .inl ((holds_normalizeTerm_iff hname).mp hholds)
      · exact .inr (.inl ⟨symbol, hmem, heq, hholds⟩)
    · exact .inr (.inr hpath)
  · rintro (hwhole | ⟨other, hmem, -, hholds⟩ | hpath)
    · exact .inl ⟨name, hsymbol, (holds_normalizeTerm_iff hname).mpr hwhole⟩
    · exact .inl ⟨other, hmem, hholds⟩
    · exact .inr hpath

/-- A file that exports one name. -/
def sampleExporter (name : String) : Chunk := ⟨"x.ts", "x.ts", "", 1, 0.5, .other, [name], []⟩

def sampleExports (name : String) : Snapshot where
  root := "/repo"
  chunks := .ofList [sampleExporter name]
  entryPoints := []
  coreModules := []
  imports := .empty
  importers := .empty
  totalTokens := 1

theorem sampleExporter_mem (name : String) :
    sampleExporter name ∈ (sampleExports name).chunks.toList := by
  rw [sampleExports, Catalog.toList_ofList (List.pairwise_singleton _ _)]
  exact List.mem_singleton_self _

/-- A dollar sign in front does not keep a name from being found. -/
theorem search_ownName_sampleExports :
    IsScriptName "$Store" ∧ terms "$Store" ≠ [] ∧
    sampleExporter "$Store" ∈ search {} "$Store" (sampleExports "$Store") ∧
    sampleExporter "$Store" ∈
      (searchRanked {} "$Store" (sampleExports "$Store")).map (·.chunk) := by
  have hname : IsScriptName "$Store" := isScriptName_of_matchesWhole (by decide)
  have hterms : terms "$Store" ≠ [] := by decide
  have hwhole : ¬ Parted "$Store".toList := (holds_normalizeTerm_iff hname).mp (by decide)
  obtain ⟨hsearch, hranked⟩ := search_ownName (sampleExporter_mem "$Store")
    (List.mem_singleton_self _) hname hterms
  have hfound := hsearch.mpr (.inl hwhole)
  exact ⟨hname, hterms, hfound, hranked.mpr hfound⟩

/-- A dollar sign in the middle does: the term of `a$b` is `ab`. -/
theorem not_every_name_found : ¬ ∀ (s : Snapshot) (c : Chunk) (name : String),
    c ∈ s.chunks.toList → name ∈ c.symbols → Extract.Script.name.matchesWhole name = true →
      terms name ≠ [] → c ∈ search {} name s ∧ c ∈ (searchRanked {} name s).map (·.chunk) := by
  intro h
  obtain ⟨hfound, -⟩ := h (sampleExports "a$b") (sampleExporter "a$b") "a$b"
    (sampleExporter_mem "a$b") (List.mem_singleton_self _) (by decide) (by decide)
  have hmissed : finds {} (terms "a$b") (sampleExporter "a$b") = false := by decide
  rw [(mem_search_iff.mp hfound).2.2] at hmissed
  cases hmissed

end Dossier.Search
