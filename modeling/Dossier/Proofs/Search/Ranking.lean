import Dossier.Proofs.Catalog
import Dossier.Proofs.Selection.Ordering
import Dossier.Search.Ranking

/-!
# Ranked and plain searching agree

A plain search lists what it finds by id, a ranked one by score, and the limit cuts each of the two
lists. What is found comes in ascending order of ids (`pairwise_found`), and since sorting is stable
the ids also decide between equal scores (`pairwise_ranked`). **`search_agrees`** says that the two
differ in nothing else.
-/

set_option autoImplicit false

namespace Dossier

/-- That a chunk is ranked before another: its score is greater, or the same with the lesser id. -/
def ScoredChunk.Outranks (a b : ScoredChunk) : Prop :=
  Binary64.rank b.score < Binary64.rank a.score ∨
    Binary64.rank b.score = Binary64.rank a.score ∧ a.chunk.id < b.chunk.id

namespace Search

variable {o : SearchOptions} {query : String} {terms : List String} {s : Snapshot}

/-! ## What is found -/

theorem found_nil : found o [] s = [] := rfl

theorem mem_found {c : Chunk} : c ∈ found o terms s ↔
    s.get? c.id = some c ∧ terms ≠ [] ∧ finds o terms c = true := by
  unfold found
  split
  · next h => simp [List.isEmpty_iff.mp h]
  · next h =>
    rw [List.mem_filter, Catalog.mem_toList, Snapshot.get?]
    simp [List.isEmpty_iff.not.mp h]

theorem found_sublist : (found o terms s).Sublist s.chunks.toList := by
  unfold found
  split
  · exact List.nil_sublist _
  · exact List.filter_sublist

theorem pairwise_found : (found o terms s).Pairwise fun a b => a.id < b.id :=
  (s.chunks.ordered_toList.sublist found_sublist).imp compare_lt_iff_lt.mp

/-! ## Ranking -/

/-- A chunk with its score for the query. -/
def scored (query : String) (c : Chunk) : ScoredChunk :=
  ⟨c, score (wholeQuery query) (Search.terms query) c⟩

/-- What is found, the greatest score first. -/
def ranked (o : SearchOptions) (query : String) (s : Snapshot) : List ScoredChunk :=
  ((found o (Search.terms query) s).map (scored query)).mergeSort fun a b =>
    Binary64.descending a.score b.score

theorem searchRanked_eq : searchRanked o query s = upTo o.limit (ranked o query s) := rfl

theorem ranked_perm : (ranked o query s).Perm ((found o (Search.terms query) s).map (scored query)) :=
  List.mergeSort_perm _ _

theorem map_chunk_ranked_perm (o : SearchOptions) (query : String) (s : Snapshot) :
    ((ranked o query s).map (·.chunk)).Perm (found o (Search.terms query) s) := by
  have hchunks : ((found o (Search.terms query) s).map (scored query)).map (·.chunk) =
      found o (Search.terms query) s := by
    rw [List.map_map]
    exact List.map_id _
  rw [← hchunks]
  exact ranked_perm.map _

/-- **Among equal scores the ids decide**, because sorting keeps the order in which chunks were
found. -/
theorem pairwise_ranked : (ranked o query s).Pairwise ScoredChunk.Outranks := by
  have hids : ((found o (Search.terms query) s).map (scored query)).Pairwise
      fun a b => a.chunk.id < b.chunk.id :=
    List.pairwise_map.mpr pairwise_found
  refine (@pairwise_mergeSort_stable _
    (fun a b : ScoredChunk => Binary64.descending a.score b.score) _
    (fun _ _ _ => Binary64.descending_trans) (fun _ _ => Binary64.descending_total _ _) _
    hids).imp fun {a b} h => ?_
  obtain ⟨hab, htie⟩ := h
  simp only [Binary64.descending, decide_eq_true_eq] at hab htie
  rcases Int.lt_or_eq_of_le hab with hlt | heq
  · exact .inl hlt
  · exact .inr ⟨heq, htie (Int.le_of_eq heq.symm)⟩

/-! ## Agreement -/

/-- What plain and ranked searching have in common, and what a limit does to each. -/
structure Agreement (o : SearchOptions) (query : String) (s : Snapshot) : Prop where
  /-- Without a limit, a plain search gives all chunks that match. -/
  mem_search : ∀ c, c ∈ search { o with limit := none } query s ↔
    s.get? c.id = some c ∧ Search.terms query ≠ [] ∧ finds o (Search.terms query) c = true
  ascending : (search { o with limit := none } query s).Pairwise fun a b => a.id < b.id
  /-- A ranked search gives the same chunks. -/
  same : ((searchRanked { o with limit := none } query s).map (·.chunk)).Perm
    (search { o with limit := none } query s)
  once : ((searchRanked { o with limit := none } query s).map (·.chunk.id)).Nodup
  own_score : ∀ hit ∈ searchRanked { o with limit := none } query s,
    hit.score = score (wholeQuery query) (Search.terms query) hit.chunk
  /-- It puts the greatest score first, and equal scores by id. -/
  ordered : (searchRanked { o with limit := none } query s).Pairwise ScoredChunk.Outranks
  /-- A limit cuts these lists, and does nothing else. -/
  search_limit : ∀ n, search { o with limit := some n } query s =
    (search { o with limit := none } query s).take n
  ranked_limit : ∀ n, searchRanked { o with limit := some n } query s =
    (searchRanked { o with limit := none } query s).take n
  no_terms : Search.terms query = [] → search o query s = [] ∧ searchRanked o query s = []

/-- **Ranked and plain searching agree**, up to the order and where the limit cuts. -/
theorem search_agrees (o : SearchOptions) (query : String) (s : Snapshot) : Agreement o query s where
  mem_search _ := mem_found
  ascending := pairwise_found
  same := map_chunk_ranked_perm o query s
  once := by
    have hids : ((found o (Search.terms query) s).map (·.id)).Nodup :=
      List.pairwise_map.mpr (pairwise_found.imp ne_of_lt)
    have hperm := (map_chunk_ranked_perm o query s).map (·.id)
    rw [List.map_map] at hperm
    exact hperm.nodup_iff.mpr hids
  own_score hit hmem := by
    obtain ⟨c, -, rfl⟩ := List.mem_map.mp (ranked_perm.mem_iff.mp hmem)
    rfl
  ordered := pairwise_ranked
  search_limit _ := rfl
  ranked_limit _ := rfl
  no_terms hnone := by
    rw [searchRanked_eq, ranked, search, hnone, found_nil]
    cases o.limit <;> simp [upTo]

end Search
end Dossier
