import Dossier.Proofs.EditDistance
import Dossier.Proofs.Search.Ranking

/-!
# Wider searches

Options are wider than others when they use every channel of these, are at least as tolerant, and
restrict the roles no more. **`search_widens`** says that wider options lose nothing that was found,
neither in a plain search nor in a ranked one, as long as no limit cuts off what else is found.

Symbols and paths may be near a term instead of holding it. The test for this rules texts out by
their lengths before it looks at anything else, but it says no more than that the edit distance is
within the bound (`EditDistance.isNear_iff`); so a greater bound accepts whatever a lesser one did
(`hits_widens`). Each channel asks its own question of symbols and terms, and each is answered with
yes once more.
-/

set_option autoImplicit false

namespace Dossier

/-- Whether `o'` is as wide as `o` at least. -/
structure SearchOptions.Widens (o o' : SearchOptions) : Prop where
  symbols : o.symbols = true → o'.symbols = true
  paths : o.paths = true → o'.paths = true
  content : o.content = true → o'.content = true
  fuzzy : o.fuzzy = true → o'.fuzzy = true
  maxDistance : o.maxDistance ≤ o'.maxDistance
  /-- When the wider options restrict the roles, the others do too, to no other roles. -/
  roles : ∀ wider, o'.roles = some wider → ∃ narrower, o.roles = some narrower ∧ narrower ⊆ wider

namespace Search

variable {o o' : SearchOptions} {terms : List String} {c : Chunk}

theorem hits_widens (h : o.Widens o') {inside near term : String}
    (hhits : hits o inside near term = true) : hits o' inside near term = true := by
  unfold hits at hhits ⊢
  rw [Bool.or_eq_true, Bool.and_eq_true, EditDistance.isNear_iff] at hhits ⊢
  refine hhits.imp_right fun hnear => ?_
  exact ⟨h.fuzzy hnear.1, Nat.le_trans hnear.2 h.maxDistance⟩

theorem any_hits_widens (h : o.Widens o') {inside near : String}
    (hany : terms.any (hits o inside near) = true) : terms.any (hits o' inside near) = true := by
  obtain ⟨term, hterm, hhits⟩ := List.any_eq_true.mp hany
  exact List.any_eq_true.mpr ⟨term, hterm, hits_widens h hhits⟩

theorem hitsSymbols_widens (h : o.Widens o') (hsymbols : hitsSymbols o terms c = true) :
    hitsSymbols o' terms c = true := by
  obtain ⟨symbol, hsymbol, hany⟩ := List.any_eq_true.mp hsymbols
  exact List.any_eq_true.mpr ⟨symbol, hsymbol, any_hits_widens h hany⟩

theorem hitsPath_widens (h : o.Widens o') (hpath : hitsPath o terms c = true) :
    hitsPath o' terms c = true :=
  any_hits_widens h hpath

theorem roles_widen (h : o.Widens o') (hroles : (o.roles.all (·.contains c.role)) = true) :
    (o'.roles.all (·.contains c.role)) = true := by
  cases hwider : o'.roles with
  | none => rfl
  | some wider =>
    obtain ⟨narrower, hnarrower, hsubset⟩ := h.roles wider hwider
    rw [hnarrower] at hroles
    exact List.contains_iff_mem.mpr (hsubset (List.contains_iff_mem.mp hroles))

/-- **Wider options find what was found.** -/
theorem finds_widens (h : o.Widens o') (hfinds : finds o terms c = true) :
    finds o' terms c = true := by
  unfold finds at hfinds ⊢
  simp only [Bool.and_eq_true, Bool.or_eq_true] at hfinds ⊢
  obtain ⟨hroles, hchannel⟩ := hfinds
  refine ⟨roles_widen h hroles, ?_⟩
  rcases hchannel with (⟨hon, hsymbols⟩ | ⟨hon, hpath⟩) | ⟨hon, hcontent⟩
  · exact .inl (.inl ⟨h.symbols hon, hitsSymbols_widens h hsymbols⟩)
  · exact .inl (.inr ⟨h.paths hon, hitsPath_widens h hpath⟩)
  · exact .inr ⟨h.content hon, hcontent⟩

theorem found_widens (h : o.Widens o') (terms : List String) (s : Snapshot) :
    (found o terms s).Sublist (found o' terms s) := by
  unfold found
  split
  · exact List.nil_sublist _
  · exact List.monotone_filter_right _ fun _ hfinds => finds_widens h hfinds

end Search

/-- **Widening the options never loses a hit**: what was found still is, in the same order, and with
the same score. -/
theorem search_widens {o o' : SearchOptions} (h : o.Widens o') (ho : o.limit = none)
    (ho' : o'.limit = none) (query : String) (s : Snapshot) :
    (search o query s).Sublist (search o' query s) ∧
      searchRanked o query s ⊆ searchRanked o' query s := by
  have hfound := Search.found_widens h (Search.terms query) s
  constructor
  · unfold search
    rw [ho, ho']
    exact hfound
  · intro hit hhit
    rw [Search.searchRanked_eq, ho, Search.upTo, Option.elim_none, Search.ranked_perm.mem_iff] at hhit
    rw [Search.searchRanked_eq, ho', Search.upTo, Option.elim_none, Search.ranked_perm.mem_iff]
    exact (hfound.map (Search.scored query)).subset hhit

namespace Search

def samplePool : Chunk := ⟨"pool.ts", "pool.ts", "", 1, 0.5, .other, ["Conector"], []⟩

def sampleSnapshot : Snapshot where
  root := "/repo"
  chunks := .ofList [samplePool]
  entryPoints := []
  coreModules := []
  imports := .empty
  importers := .empty
  totalTokens := 1

def sampleNarrow : SearchOptions := { paths := false, fuzzy := true, roles := some [.other] }

def sampleWide : SearchOptions := { fuzzy := true, maxDistance := 5, roles := some [.test, .other] }

/-- What is found with two slips in the query is found when five are allowed. -/
theorem search_widens_samplePool :
    sampleNarrow.Widens sampleWide ∧ sampleNarrow.limit = none ∧ sampleWide.limit = none ∧
      samplePool ∈ search sampleWide "conection" sampleSnapshot := by
  have hwidens : sampleNarrow.Widens sampleWide := by
    refine ⟨id, by simp [sampleNarrow], id, id, by decide, ?_⟩
    rintro wider ⟨⟩
    exact ⟨_, rfl, by simp⟩
  have hterms : Search.terms "conection" ≠ [] := by decide
  have hfinds : finds sampleNarrow (Search.terms "conection") samplePool = true := by decide
  have hfound : samplePool ∈ search sampleNarrow "conection" sampleSnapshot :=
    mem_found.mpr ⟨rfl, hterms, hfinds⟩
  exact ⟨hwidens, rfl, rfl, (search_widens hwidens rfl rfl _ _).1.subset hfound⟩

end Search
end Dossier
