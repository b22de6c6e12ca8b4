import Dossier.Proofs.Analysis.Build
import Dossier.Proofs.Extract.Names
import Dossier.Proofs.Text.Lowercase
import Dossier.Search.Ranking
import Dossier.Selection.Relevance

/-!
# What is matched by names

Words of a task are matched with symbols both ways round, so a symbol without any characters would
be matched by every word; and queries are compared with symbols as a whole, so a symbol with blanks
could be a query of several words. Names are no such symbols, and the symbols of a chunk are names:
it is matched by what they have in them (`matchedByNames`). **`extracted_wellFormed`** says this of
every text, and of every chunk that comes out of an analysis.
-/

set_option autoImplicit false

namespace Dossier

/-- That a chunk is matched through its symbols by what is in them, and by nothing else. -/
structure Chunk.MatchedByNames (c : Chunk) : Prop where
  /-- A word that matches a symbol has a character in common with it. -/
  common : ∀ symbol ∈ c.symbols, ∀ word, word ≠ "" →
    (Text.holds (Text.lowercase symbol) word || Text.holds word (Text.lowercase symbol)) = true →
      ∃ x ∈ (Text.lowercase symbol).toList, x ∈ word.toList
  /-- There is a task of which no word matches any symbol. -/
  unmatched : ∃ task, taskWords task ≠ [] ∧
    ∀ word ∈ taskWords task, (Relevance.Haystack.ofChunk c).inSymbols word = false
  /-- A query as it is compared with symbols has no blanks if it is one of them. -/
  compared : ∀ symbol ∈ c.symbols, ∀ query, Text.lowercase symbol = query →
    ∀ x ∈ query.toList, Text.isBlank x = false
  /-- A query as it was asked is then a single word, with blanks at its ends only. -/
  asked : ∀ symbol ∈ c.symbols, ∀ query, Text.lowercase symbol = Search.wholeQuery query →
    Text.words query = [Text.trim query] ∧ ∀ x ∈ (Text.trim query).toList, Text.isBlank x = false
  /-- For a query of several words a symbol counts by the terms that it holds. -/
  spaced : ∀ symbol ∈ c.symbols, ∀ query terms, (∃ x ∈ query.toList, Text.isBlank x = true) →
    Search.symbolScore query terms (Text.lowercase symbol) =
      10.0 * Search.countHeld (Text.lowercase symbol) terms

namespace Extract

variable {name word query : String}

/-! ## Words of a task -/

theorem IsSymbol.lowercase_ne_empty (h : IsSymbol name) : Text.lowercase name ≠ "" :=
  fun hempty => h.ne_empty (Text.lowercase_eq_empty_iff.mp hempty)

/-- A point is in no name, and lower case does not bring it in. -/
theorem IsSymbol.point_notMem (h : IsSymbol name) : '.' ∉ (Text.lowercase name).toList := by
  have hpoint : ∀ x ∈ name.toList, (x == '.') = false := by
    intro x hx
    refine beq_eq_false_iff_ne.mpr ?_
    rintro rfl
    cases h.chars '.' hx
  have hkept : ∀ c d : Char, Text.Lowers c d → (d == '.') = (c == '.') :=
    fun _ _ h => h.beq_eq (by decide +kernel)
  rw [Text.toList_lowercase]
  intro hmem
  cases (Text.forall_mem_lowerFrom hkept [] name.toList).mpr hpoint '.' hmem

/-- When one of two texts is inside the other and neither is empty, they share a character. -/
theorem exists_common {s t : String} (hs : s ≠ "") (ht : t ≠ "")
    (h : (Text.holds s t || Text.holds t s) = true) : ∃ x ∈ s.toList, x ∈ t.toList := by
  have hchar {s : String} (hs : s ≠ "") : ∃ x, x ∈ s.toList :=
    List.exists_mem_of_ne_nil _ fun hnil => hs (String.toList_eq_nil_iff.mp hnil)
  rcases Bool.or_eq_true_iff.mp h with hinside | hinside
  · obtain ⟨x, hx⟩ := hchar ht
    exact ⟨x, (Text.holds_iff.mp hinside).subset hx, hx⟩
  · obtain ⟨x, hx⟩ := hchar hs
    exact ⟨x, hx, (Text.holds_iff.mp hinside).subset hx⟩

/-- Nothing is matched by a point. -/
theorem inSymbols_point {c : Chunk} (h : ∀ symbol ∈ c.symbols, IsSymbol symbol) :
    (Relevance.Haystack.ofChunk c).inSymbols "." = false := by
  refine Bool.eq_false_iff.mpr fun hmatched => ?_
  obtain ⟨text, htext, hholds⟩ := List.any_eq_true.mp hmatched
  obtain ⟨symbol, hsymbol, rfl⟩ := List.mem_map.mp htext
  obtain ⟨x, hx, hpoint⟩ := exists_common (h symbol hsymbol).lowercase_ne_empty (by decide) hholds
  obtain rfl := List.mem_singleton.mp hpoint
  exact (h symbol hsymbol).point_notMem hx

/-! ## Queries -/

/-- Blanks at the ends of a query do not count; a name has none elsewhere. -/
theorem IsSymbol.words_query (h : IsSymbol name)
    (hexact : Text.lowercase name = Search.wholeQuery query) :
    Text.words query = [Text.trim query] ∧
      ∀ x ∈ (Text.trim query).toList, Text.isBlank x = false := by
  have hblank := (Text.isBlank_lowercase name).mpr h.not_blank
  rw [hexact, Search.wholeQuery, Text.isBlank_lowercase] at hblank
  have hne : Text.trim query ≠ "" := by
    intro hempty
    rw [Search.wholeQuery, hempty] at hexact
    exact h.lowercase_ne_empty (hexact.trans (Text.lowercase_eq_empty_iff.mpr rfl))
  rw [← Text.words_trim]
  exact ⟨Text.words_of_not_blank hblank hne, hblank⟩

/-- What has blanks is neither a name nor inside one. -/
theorem IsSymbol.symbolScore_eq (h : IsSymbol name) (terms : List String)
    (hblank : ∃ x ∈ query.toList, Text.isBlank x = true) :
    Search.symbolScore query terms (Text.lowercase name) =
      10.0 * Search.countHeld (Text.lowercase name) terms := by
  obtain ⟨x, hx, hblank⟩ := hblank
  have hinside : ¬ query.toList <:+: (Text.lowercase name).toList := by
    intro hpiece
    rw [(Text.isBlank_lowercase name).mpr h.not_blank x (hpiece.subset hx)] at hblank
    cases hblank
  have hne : ¬ (Text.lowercase name == query) = true := by
    intro heq
    rw [beq_iff_eq.mp heq] at hinside
    exact hinside List.infix_rfl
  unfold Search.symbolScore
  rw [if_neg hne, if_neg fun hholds => hinside (Text.holds_iff.mp hholds)]

/-! ## Chunks -/

/-- **A chunk whose symbols are names is matched by them.** -/
theorem matchedByNames {c : Chunk} (h : ∀ symbol ∈ c.symbols, IsSymbol symbol) :
    c.MatchedByNames where
  common symbol hsymbol word hword hmatched :=
    exists_common (h symbol hsymbol).lowercase_ne_empty hword hmatched
  unmatched := by
    have hwords : taskWords "." = ["."] := by decide
    refine ⟨".", by rw [hwords]; exact List.cons_ne_nil _ _, fun word hword => ?_⟩
    rw [hwords] at hword
    obtain rfl := List.mem_singleton.mp hword
    exact inSymbols_point h
  compared := by
    rintro symbol hsymbol query rfl
    exact (Text.isBlank_lowercase symbol).mpr (h symbol hsymbol).not_blank
  asked symbol hsymbol query hexact := (h symbol hsymbol).words_query hexact
  spaced symbol hsymbol query terms hblank := (h symbol hsymbol).symbolScore_eq terms hblank

/-- The symbols of a chunk that was made of a file are names, whatever its language. -/
theorem isSymbol_of_mem_chunkOf {a : Analyzer} {path content symbol : String}
    (h : symbol ∈ (a.chunkOf path content).symbols) : IsSymbol symbol := by
  unfold Analyzer.chunkOf at h
  dsimp only at h
  cases hlanguage : a.registry.forPath? path with
  | none =>
    rw [hlanguage] at h
    cases h
  | some l =>
    rw [hlanguage] at h
    exact isSymbol_of_mem_symbols l h

theorem matchedByNames_of_build {a : Analyzer} {t : Located} {s : Snapshot} (hs : a.build t = .ok s)
    {c : Chunk} (hc : c ∈ s.chunks.toList) : c.MatchedByNames := by
  obtain ⟨access, entries, files, -, -, -, rfl⟩ := Analyzer.build_eq_ok_iff.mp hs
  obtain ⟨f, -, hown⟩ := Analyzer.exists_of_mem_chunks_snapshotOf hc
  have hsymbols : c.symbols = (a.chunkOf f.path f.content).symbols := by
    rw [hown]
  refine matchedByNames fun symbol hsymbol => ?_
  rw [hsymbols] at hsymbol
  exact isSymbol_of_mem_chunkOf hsymbol

/--
**What is extracted is well formed**, in every language and from every text; so a chunk is matched
by the names of its file, and every chunk of a snapshot is one of these.
-/
theorem extracted_wellFormed :
    (∀ (l : Language) (text : String), WellFormed l text) ∧
    (∀ (l : Language) (text : String) (c : Chunk), c.symbols = l.symbols text →
      c.MatchedByNames) ∧
    ∀ (a : Analyzer) (t : Located) (s : Snapshot), a.build t = .ok s →
      ∀ c ∈ s.chunks.toList, c.MatchedByNames := by
  refine ⟨wellFormed, fun l text c hc => matchedByNames fun symbol hsymbol => ?_, ?_⟩
  · rw [hc] at hsymbol
    exact isSymbol_of_mem_symbols l hsymbol
  · intro a t s hs c hc
    exact matchedByNames_of_build hs hc

/-- A file with a list of exports that has an item of blanks in it. -/
def sampleList : Chunk :=
  ⟨"b.ts", "b.ts", "export\x7b ,a as B\x7d", 5, 0.5, .other, ["B"], []⟩

/-- The item is left out, and a query with blanks around it is the name that is left. -/
theorem extracted_wellFormed_sampleList :
    sampleList.symbols = Language.script.symbols sampleList.content ∧
      Text.lowercase "B" = Search.wholeQuery " b " ∧ Text.words " b " = [Text.trim " b "] := by
  have hsymbols : Language.script.symbols "export\x7b ,a as B\x7d" = ["B"] := by cbv
  have hexact : Text.lowercase "B" = Search.wholeQuery " b " := by decide
  have hmatched := extracted_wellFormed.2.1 .script sampleList.content sampleList hsymbols.symm
  exact ⟨hsymbols.symm, hexact, (hmatched.asked "B" (List.mem_singleton_self _) " b " hexact).1⟩

end Extract
end Dossier
