import Dossier.Proofs.Binary64.Bounds
import Dossier.Proofs.Search.Ranking
import Dossier.Proofs.Text.Lowercase

/-!
# Exact symbols come first

A chunk with a symbol that is the query itself scores fifty at least, since all else that counts only
adds to it (`atLeast_score`). A symbol has no blanks, so such a query is a single term at most; and
with a single term, all that a chunk can score without any of its symbols is thirty-seven: ten for
its importance, fifteen for its file name, ten for its role and two for its path (`within_score`).
So the one comes before the other, **`searchRanked_exact`**.
-/

set_option autoImplicit false

namespace Dossier.Search

open Binary64

variable {query : String} {terms : List String} {c : Chunk}

/-! ## What parts of a score add -/

section Parts

variable (query terms) (text : String)

theorem atLeast_symbolScore : AtLeast 0 (symbolScore query terms text) := by
  unfold symbolScore countHeld
  split_ifs
  · exact atLeast_zero (by decide)
  · exact atLeast_zero (by decide)
  · exact Within.mul_ofCount (within_of_le (n := 10) (by decide) (by decide) (by decide)) _

theorem atLeast_fileNameScore : AtLeast 0 (fileNameScore query terms text) := by
  unfold fileNameScore countHeld
  split
  · exact atLeast_zero (by decide)
  · exact Within.mul_ofCount (within_of_le (n := 5) (by decide) (by decide) (by decide)) _

theorem atLeast_pathScore : AtLeast 0 (2.0 * countHeld text terms) :=
  Within.mul_ofCount (within_of_le (n := 2) (by decide) (by decide) (by decide)) _

theorem within_roleScore (r : Role) : Within (roleScore r) 10 := by
  cases r <;> exact within_of_le (by decide) (by decide) (by decide)

/-- The query adds fifty, as a symbol. -/
theorem atLeast_symbolScore_self : AtLeast 50 (symbolScore query terms query) := by
  rw [symbolScore, if_pos (beq_self_eq_true query)]
  exact_mod_cast atLeast_of_le (n := 50) (by decide) (by decide) (by decide)

end Parts

section FewTerms

variable (hterms : terms.length ≤ 1)
include hterms

theorem within_countHeld (text : String) : Within (countHeld text terms) 1 := by
  have hcount : terms.countP (Text.holds text) ≤ 1 := List.countP_le_length.trans hterms
  exact (within_ofCount (hcount.trans_lt (by decide))).mono hcount

theorem within_fileNameScore (query text : String) :
    Within (fileNameScore query terms text) 15 := by
  unfold fileNameScore
  split
  · exact within_of_le (by decide) (by decide) (by decide)
  · have hfive : Within 5.0 5 := within_of_le (by decide) (by decide) (by decide)
    exact (hfive.mul (within_countHeld hterms text) (by decide)).mono (by decide)

theorem within_pathScore (text : String) : Within (2.0 * countHeld text terms) 2 := by
  have htwo : Within 2.0 2 := within_of_le (by decide) (by decide) (by decide)
  exact htwo.mul (within_countHeld hterms text) (by decide)

end FewTerms

/-- A symbol that holds neither the query nor a term adds nothing. -/
theorem within_symbolScore {symbol : String} (hquery : Text.holds symbol query = false)
    (hterms : ∀ term ∈ terms, Text.holds symbol term = false) :
    Within (symbolScore query terms symbol) 0 := by
  have hne : (symbol == query) = false := by
    refine beq_eq_false_iff_ne.mpr fun heq => ?_
    rw [heq, Text.holds_iff.mpr List.infix_rfl] at hquery
    cases hquery
  have hcount : terms.countP (Text.holds symbol) = 0 :=
    List.countP_eq_zero.mpr fun term hterm => by simp [hterms term hterm]
  have hten : Within 10.0 10 := within_of_le (by decide) (by decide) (by decide)
  rw [symbolScore, if_neg (by simp [hne]), if_neg (by simp [hquery]), countHeld, hcount]
  exact hten.mul (within_ofCount (by decide)) (by decide)

/-! ## Scores of symbols -/

/-- The score after the symbols have been added to what was there before. -/
def addSymbols (query : String) (terms symbols : List String) (score : Float) : Float :=
  symbols.foldl (fun score symbol => score + symbolScore query terms (Text.lowercase symbol)) score

theorem score_eq (query : String) (terms : List String) (c : Chunk) : score query terms c =
    addSymbols query terms c.symbols (c.importance * 10.0)
      + fileNameScore query terms (Text.lowercase c.fileName) + roleScore c.role
      + 2.0 * countHeld (Text.lowercase c.filePath) terms := rfl

/-- Symbols take nothing away. -/
theorem atLeast_addSymbols {q : ℚ} (hq : 0 ≤ q) (symbols : List String) {score : Float}
    (h : AtLeast q score) : AtLeast q (addSymbols query terms symbols score) := by
  unfold addSymbols
  induction symbols generalizing score with
  | nil => exact h
  | cons symbol symbols ih =>
    rw [List.foldl_cons]
    exact ih (h.add hq (atLeast_symbolScore query terms _))

/-- The query among the symbols makes fifty at least. -/
theorem atLeast_addSymbols_of_mem {symbols : List String} {score : Float} (h : AtLeast 0 score)
    {symbol : String} (hsymbol : symbol ∈ symbols) (hexact : Text.lowercase symbol = query) :
    AtLeast 50 (addSymbols query terms symbols score) := by
  obtain ⟨before, behind, rfl⟩ := List.append_of_mem hsymbol
  have hbefore : AtLeast 0 (addSymbols query terms before score) :=
    atLeast_addSymbols le_rfl before h
  have hself : AtLeast 50
      (addSymbols query terms before score + symbolScore query terms (Text.lowercase symbol)) := by
    rw [hexact]
    exact hbefore.add_left (by norm_num) (atLeast_symbolScore_self query terms)
  have hall : AtLeast 50 (addSymbols query terms behind
      (addSymbols query terms before score + symbolScore query terms (Text.lowercase symbol))) :=
    atLeast_addSymbols (by norm_num) behind hself
  unfold addSymbols at hall ⊢
  rwa [List.foldl_append, List.foldl_cons]

/-- Symbols without the query and the terms add nothing. -/
theorem within_addSymbols {n : ℕ} (hn : n < 2 ^ 53) {symbols : List String} {score : Float}
    (h : Within score n)
    (hnone : ∀ symbol ∈ symbols, Within (symbolScore query terms (Text.lowercase symbol)) 0) :
    Within (addSymbols query terms symbols score) n := by
  unfold addSymbols
  induction symbols generalizing score with
  | nil => exact h
  | cons symbol symbols ih =>
    rw [List.forall_mem_cons] at hnone
    rw [List.foldl_cons]
    exact ih (h.add hnone.1 hn) hnone.2

/-! ## Scores of chunks -/

theorem within_importance (h : InUnit c.importance) : Within (c.importance * 10.0) 10 :=
  h.within.mul (within_of_le (n := 10) (by decide) (by decide) (by decide)) (by decide)

/-- **A symbol that is the query makes fifty at least.** -/
theorem atLeast_score (himportance : InUnit c.importance) {symbol : String}
    (hsymbol : symbol ∈ c.symbols) (hexact : Text.lowercase symbol = query) :
    AtLeast 50 (score query terms c) := by
  have hpos : (0 : ℚ) ≤ 50 := by norm_num
  have hsymbols : AtLeast 50 (addSymbols query terms c.symbols (c.importance * 10.0)) :=
    atLeast_addSymbols_of_mem (within_importance himportance).atLeast hsymbol hexact
  rw [score_eq]
  exact ((hsymbols.add hpos (atLeast_fileNameScore query terms _)).add hpos
    (within_roleScore c.role).atLeast).add hpos (atLeast_pathScore terms _)

/-- **Without its symbols a chunk scores thirty-seven at most**, for a single term. -/
theorem within_score (himportance : InUnit c.importance) (hterms : terms.length ≤ 1)
    (hnone : ∀ symbol ∈ c.symbols, Text.holds (Text.lowercase symbol) query = false ∧
      ∀ term ∈ terms, Text.holds (Text.lowercase symbol) term = false) :
    Within (score query terms c) 37 := by
  have hsymbols : Within (addSymbols query terms c.symbols (c.importance * 10.0)) 10 :=
    within_addSymbols (by decide) (within_importance himportance) fun symbol hsymbol =>
      within_symbolScore (hnone symbol hsymbol).1 (hnone symbol hsymbol).2
  rw [score_eq]
  exact ((hsymbols.add (within_fileNameScore hterms query _) (by decide)).add
    (within_roleScore c.role) (by decide)).add (within_pathScore hterms _) (by decide)

/-! ## Queries without blanks -/

theorem length_terms_le (query : String) : (Search.terms query).length ≤ (Text.words query).length := by
  have hall : ((Text.words query).map normalizeTerm).length = (Text.words query).length :=
    List.length_map normalizeTerm
  exact (List.length_filter_le _ _).trans hall.le

/-- A query that is a symbol has a single term at most. -/
theorem length_terms_le_one {symbol : String} (hblank : ∀ x ∈ symbol.toList, Text.isBlank x = false)
    (hexact : Text.lowercase symbol = wholeQuery query) : (Search.terms query).length ≤ 1 := by
  have hwhole := (Text.isBlank_lowercase symbol).mpr hblank
  rw [hexact, wholeQuery, Text.isBlank_lowercase] at hwhole
  exact (length_terms_le query).trans (Text.length_words_le_one hwhole)

/-! ## Ranks -/

/-- What comes first and what comes second in a list. -/
theorem sublist_or_of_mem {α : Type} {l : List α} {a b : α} (ha : a ∈ l) (hb : b ∈ l)
    (hne : a ≠ b) : [a, b].Sublist l ∨ [b, a].Sublist l := by
  have hsymm : Std.Symm fun x y : α => [x, y].Sublist l ∨ [y, x].Sublist l :=
    ⟨fun _ _ => Or.symm⟩
  have hpairs : l.Pairwise fun x y : α => [x, y].Sublist l ∨ [y, x].Sublist l :=
    List.pairwise_iff_forall_sublist.mpr Or.inl
  exact hpairs.forall ha hb hne

theorem upTo_sublist {α : Type} (limit : Option Nat) (xs : List α) : (upTo limit xs).Sublist xs := by
  cases limit with
  | none => exact List.Sublist.refl xs
  | some n => exact List.take_sublist n xs

section Ranked

variable {o : SearchOptions} {query : String} {s : Snapshot} {a b : ScoredChunk}

theorem pairwise_searchRanked : (searchRanked o query s).Pairwise ScoredChunk.Outranks :=
  pairwise_ranked.sublist (upTo_sublist o.limit _)

/-- The greater score comes first. -/
theorem sublist_of_score_lt (ha : a ∈ searchRanked o query s) (hb : b ∈ searchRanked o query s)
    (h : b.score < a.score) : [a, b].Sublist (searchRanked o query s) := by
  have hrank := Binary64.rank_lt_of_lt h
  have hne : a ≠ b := fun heq => absurd hrank (by rw [heq]; exact lt_irrefl _)
  refine (sublist_or_of_mem ha hb hne).resolve_right fun hfirst => ?_
  rcases List.pairwise_iff_forall_sublist.mp pairwise_searchRanked hfirst with hlt | ⟨heq, -⟩
  · exact absurd hrank (not_lt.mpr hlt.le)
  · exact absurd hrank heq.symm.not_lt

theorem exists_of_mem_searchRanked (ha : a ∈ searchRanked o query s) :
    a.chunk ∈ s.chunks.toList ∧ a = scored query a.chunk := by
  have hmem := ranked_perm.mem_iff.mp ((upTo_sublist o.limit _).subset ha)
  obtain ⟨c, hc, rfl⟩ := List.mem_map.mp hmem
  exact ⟨found_sublist.subset hc, rfl⟩

/-- **An exact symbol comes before all that is found without symbols**, whatever the roles, paths
and importances. -/
theorem searchRanked_exact
    (himportance : ∀ c ∈ s.chunks.toList, 0.0 ≤ c.importance ∧ c.importance ≤ 1.0)
    (hblank : ∀ c ∈ s.chunks.toList, ∀ symbol ∈ c.symbols, ∀ x ∈ symbol.toList,
      Text.isBlank x = false)
    (ha : a ∈ searchRanked o query s) (hb : b ∈ searchRanked o query s)
    (hexact : ∃ symbol ∈ a.chunk.symbols, Text.lowercase symbol = wholeQuery query)
    (hnone : ∀ symbol ∈ b.chunk.symbols,
      Text.holds (Text.lowercase symbol) (wholeQuery query) = false ∧
        ∀ term ∈ Search.terms query, Text.holds (Text.lowercase symbol) term = false) :
    b.score < a.score ∧ [a, b].Sublist (searchRanked o query s) := by
  obtain ⟨hac, hascore⟩ := exists_of_mem_searchRanked ha
  obtain ⟨hbc, hbscore⟩ := exists_of_mem_searchRanked hb
  obtain ⟨symbol, hsymbol, hwhole⟩ := hexact
  have hterms := length_terms_le_one (hblank a.chunk hac symbol hsymbol) hwhole
  have hfifty : AtLeast 50 a.score := by
    rw [hascore]
    exact atLeast_score (inUnit_iff.mpr (himportance a.chunk hac)) hsymbol hwhole
  have hfew : Within b.score 37 := by
    rw [hbscore]
    exact within_score (inUnit_iff.mpr (himportance b.chunk hbc)) hterms hnone
  have hlt := hfew.lt hfifty (by norm_num)
  exact ⟨hlt, sublist_of_score_lt ha hb hlt⟩

end Ranked

def sampleLogin : Chunk := ⟨"login.ts", "login.ts", "", 1, 0.0, .other, ["Authenticate"], []⟩

/-- A chunk with all that can be scored without symbols. -/
def sampleEntry : Chunk :=
  ⟨"authenticate.ts", "authenticate.ts", "", 1, 1.0, .entryPoint, ["run"], []⟩

def sampleRepository : Snapshot where
  root := "/repo"
  chunks := .ofList [sampleLogin, sampleEntry]
  entryPoints := ["authenticate.ts"]
  coreModules := []
  imports := .empty
  importers := .empty
  totalTokens := 2

/-- The symbol of an unimportant file comes before the path of the most important one. -/
theorem searchRanked_exact_sampleRepository :
    let first := scored " authenticate" sampleLogin
    let second := scored " authenticate" sampleEntry
    (∀ c ∈ sampleRepository.chunks.toList, 0.0 ≤ c.importance ∧ c.importance ≤ 1.0) ∧
    (∀ c ∈ sampleRepository.chunks.toList, ∀ symbol ∈ c.symbols, ∀ x ∈ symbol.toList,
      Text.isBlank x = false) ∧
    first ∈ searchRanked {} " authenticate" sampleRepository ∧
    second ∈ searchRanked {} " authenticate" sampleRepository ∧
    second.score < first.score ∧
      [first, second].Sublist (searchRanked {} " authenticate" sampleRepository) := by
  have hchunks (c : Chunk) (hc : c ∈ sampleRepository.chunks.toList) :
      c = sampleLogin ∨ c = sampleEntry := by
    simpa using Catalog.mem_of_mem_toList_ofList hc
  have himportance : ∀ c ∈ sampleRepository.chunks.toList,
      0.0 ≤ c.importance ∧ c.importance ≤ 1.0 := by
    intro c hc
    rcases hchunks c hc with rfl | rfl <;> decide
  have hblank : ∀ c ∈ sampleRepository.chunks.toList, ∀ symbol ∈ c.symbols,
      ∀ x ∈ symbol.toList, Text.isBlank x = false := by
    intro c hc symbol hsymbol x hx
    have hletters : c.symbols.all (·.toList.all (!Text.isBlank ·)) = true := by
      rcases hchunks c hc with rfl | rfl <;> decide
    rw [List.all_eq_true] at hletters
    exact Bool.not_eq_true' _ |>.mp (List.all_eq_true.mp (hletters symbol hsymbol) x hx)
  have hfound (c : Chunk) (hc : c ∈ found {} (Search.terms " authenticate") sampleRepository) :
      scored " authenticate" c ∈ searchRanked {} " authenticate" sampleRepository :=
    ranked_perm.mem_iff.mpr (List.mem_map_of_mem hc)
  have hfirst := hfound sampleLogin (mem_found.mpr ⟨rfl, by decide, by decide⟩)
  have hsecond := hfound sampleEntry (mem_found.mpr ⟨rfl, by decide, by decide⟩)
  have hnone : ∀ symbol ∈ sampleEntry.symbols,
      Text.holds (Text.lowercase symbol) (wholeQuery " authenticate") = false ∧
        ∀ term ∈ Search.terms " authenticate", Text.holds (Text.lowercase symbol) term = false := by
    intro symbol hsymbol
    obtain rfl := List.mem_singleton.mp hsymbol
    exact ⟨by decide, by decide⟩
  exact ⟨himportance, hblank, hfirst, hsecond, searchRanked_exact himportance hblank hfirst hsecond
    ⟨"Authenticate", by decide, by decide⟩ hnone⟩

end Dossier.Search
