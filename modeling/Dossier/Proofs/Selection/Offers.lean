import Dossier.Proofs.Catalog
import Dossier.Proofs.Selection.Ordering
import Dossier.Proofs.Selection.Packing
import Dossier.Selection.Select

/-!
# What a selection offers

A selection packs one list of chunks: first the forced ones, then the candidates in the order of the
strategy. Here is what stands in that list. `Spells`, `Forces` and `Passes` say which ids go first
and what the filters ask; `mem_forcedIds` and `mem_orderedIds` say that the two parts of the list
are exactly these. All offers are raised copies of chunks of the snapshot, so an id always comes
with the same number of tokens, and the two invariants of packing hold of the whole run.
-/

set_option autoImplicit false

namespace Dossier

/-! ## Spellings of an id -/

/-- A text spells an id when it is the id behind `./`, repeated as often as it can be taken off. -/
def Spells (text id : String) : Prop :=
  (∃ n, text.toList = (List.replicate n ['.', '/']).flatten ++ id.toList) ∧
    ¬ ['.', '/'] <+: id.toList

theorem exists_dropHere (cs : List Char) :
    ∃ n, cs = (List.replicate n ['.', '/']).flatten ++ dropHere cs := by
  fun_induction dropHere cs with
  | case1 rest ih =>
    obtain ⟨n, hn⟩ := ih
    refine ⟨n + 1, ?_⟩
    rw [List.replicate_succ, List.flatten_cons, List.append_assoc, ← hn]
    rfl
  | case2 cs => exact ⟨0, rfl⟩

theorem not_isPrefix_dropHere (cs : List Char) : ¬ ['.', '/'] <+: dropHere cs := by
  fun_induction dropHere cs with
  | case1 rest ih => exact ih
  | case2 cs hcs =>
    rintro ⟨rest, hrest⟩
    exact hcs rest hrest.symm

theorem dropHere_of_not_isPrefix {cs : List Char} (h : ¬ ['.', '/'] <+: cs) : dropHere cs = cs := by
  fun_cases dropHere cs with
  | case1 rest => exact absurd ⟨rest, rfl⟩ h
  | case2 => rfl

theorem dropHere_replicate (n : Nat) (cs : List Char) :
    dropHere ((List.replicate n ['.', '/']).flatten ++ cs) = dropHere cs := by
  induction n with
  | zero => rfl
  | succ n ih =>
    rw [List.replicate_succ, List.flatten_cons, List.append_assoc, ← ih]
    rfl

theorem spells_iff {text id : String} : Spells text id ↔ normalizeId text = id := by
  unfold Spells normalizeId
  constructor
  · rintro ⟨⟨n, hn⟩, hid⟩
    rw [hn, dropHere_replicate, dropHere_of_not_isPrefix hid, String.ofList_toList]
  · rintro rfl
    rw [String.toList_ofList]
    exact ⟨exists_dropHere _, not_isPrefix_dropHere _⟩

/-! ## Chunks as they are offered -/

@[simp] theorem Chunk.boosted_id (boosts : Boosts) (c : Chunk) : (c.boosted boosts).id = c.id := rfl

@[simp] theorem Chunk.boosted_tokens (boosts : Boosts) (c : Chunk) :
    (c.boosted boosts).tokens = c.tokens := rfl

@[simp] theorem Chunk.boosted_role (boosts : Boosts) (c : Chunk) :
    (c.boosted boosts).role = c.role := rfl

/-- The tokens of the chunk with an id; none without one. -/
def Snapshot.weight (s : Snapshot) (id : String) : UInt32 := ((s.get? id).map (·.tokens)).getD 0

theorem Snapshot.weight_of_get? {s : Snapshot} {id : String} {c : Chunk} (h : s.get? id = some c) :
    s.weight id = c.tokens := by
  simp [weight, h]

namespace SelectionRequest

variable (r : SelectionRequest) (boosts : Boosts) (pinned : List String) (s : Snapshot)

/-- What the filters ask of a chunk: that its raised importance is not below the least one, and that
its role is not left out. -/
structure Passes (c : Chunk) : Prop where
  important : ¬ (c.boosted boosts).importance < r.minImportance
  types : c.role = .types → r.includeTypes = true
  tests : c.role = .test → r.includeTests = true

/-- An id goes first when one of the given texts spells it, and a chunk has it. -/
def Forces (id : String) : Prop :=
  (∃ text ∈ pinned ++ r.priorityFiles, Spells text id) ∧ ∃ c, s.get? id = some c

/-- The ids that go first, in the order given, as often as they are given. -/
def forcedIds : List String :=
  ((pinned ++ r.priorityFiles).map normalizeId).filter s.chunks.contains

/-- The ids of the candidates in the order of the strategy. -/
def orderedIds : List String := (r.ordered boosts s).map (·.chunk.id)

/-- All chunks that are offered, in order. -/
def offers : List Chunk := r.forced boosts pinned s ++ (r.ordered boosts s).map (·.chunk)

/-- The budget after all offers. -/
def spent : Budget := ((Budget.ofLimit r.maxTokens).pack (r.offers boosts pinned s)).1

theorem runWith_eq :
    r.runWith boosts pinned s =
      (r.spent boosts pinned s).finish (r.candidates boosts s).length := rfl

variable {r boosts pinned s}

theorem admits_boosted_iff {c : Chunk} :
    r.admits (c.boosted boosts) = true ↔ r.Passes boosts c := by
  unfold admits
  by_cases h : (c.boosted boosts).importance < r.minImportance
  · rw [if_pos h]
    exact iff_of_false (by simp) fun hp => hp.important h
  · rw [if_neg h, Chunk.boosted_role]
    constructor
    · intro hrole
      exact ⟨h, fun ht => by simpa [ht] using hrole, fun ht => by simpa [ht] using hrole⟩
    · rintro ⟨-, htypes, htests⟩
      split
      · next ht => exact htypes ht
      · next ht => exact htests ht
      · rfl

theorem mem_candidates {x : Candidate} :
    x ∈ r.candidates boosts s ↔
      ∃ c, s.get? c.id = some c ∧ r.Passes boosts c ∧
        x = ⟨c.boosted boosts, relevance (c.boosted boosts) r.words⟩ := by
  simp only [candidates, List.mem_map, List.mem_filter]
  constructor
  · rintro ⟨-, ⟨⟨c, hc, rfl⟩, hadmits⟩, rfl⟩
    exact ⟨c, Catalog.mem_toList.mp hc, admits_boosted_iff.mp hadmits, rfl⟩
  · rintro ⟨c, hc, hpasses, rfl⟩
    exact ⟨_, ⟨⟨c, Catalog.mem_toList.mpr hc, rfl⟩, admits_boosted_iff.mpr hpasses⟩, rfl⟩

theorem mem_ordered {x : Candidate} : x ∈ r.ordered boosts s ↔ x ∈ r.candidates boosts s :=
  (Candidate.order_perm _ _ _).mem_iff

theorem mem_orderedIds {id : String} :
    id ∈ r.orderedIds boosts s ↔ ∃ c, s.get? id = some c ∧ r.Passes boosts c := by
  unfold orderedIds
  rw [List.mem_map]
  constructor
  · rintro ⟨x, hx, rfl⟩
    obtain ⟨c, hc, hpasses, rfl⟩ := mem_candidates.mp (mem_ordered.mp hx)
    exact ⟨c, hc, hpasses⟩
  · rintro ⟨c, hc, hpasses⟩
    have hid : c.id = id := Catalog.id_of_get? hc
    subst hid
    exact ⟨_, mem_ordered.mpr (mem_candidates.mpr ⟨c, hc, hpasses, rfl⟩), rfl⟩

theorem length_orderedIds :
    (r.orderedIds boosts s).length = (r.candidates boosts s).length := by
  unfold orderedIds
  rw [List.length_map]
  exact (Candidate.order_perm _ _ _).length_eq

theorem nodup_orderedIds : (r.orderedIds boosts s).Nodup := by
  unfold orderedIds
  refine ((Candidate.order_perm _ _ _).map _).nodup_iff.mpr ?_
  unfold candidates
  rw [List.map_map]
  refine List.Nodup.sublist ((List.filter_sublist).map _) ?_
  rw [List.map_map]
  exact s.chunks.nodup_map_id

theorem mem_forcedIds {id : String} : id ∈ r.forcedIds pinned s ↔ r.Forces pinned s id := by
  unfold forcedIds Forces
  rw [List.mem_filter, List.mem_map, Catalog.contains_iff]
  simp only [spells_iff]
  rfl

theorem map_id_forced : (r.forced boosts pinned s).map (·.id) = r.forcedIds pinned s := by
  unfold forced forcedIds
  induction pinned ++ r.priorityFiles with
  | nil => rfl
  | cons text texts ih =>
    rw [List.filterMap_cons, List.map_cons, List.filter_cons]
    cases h : s.get? (normalizeId text) with
    | none =>
      have hno : ¬ s.chunks.contains (normalizeId text) = true := fun hc => by
        obtain ⟨c, hc⟩ := Catalog.contains_iff.mp hc
        exact absurd (h.symm.trans hc) (by simp)
      rw [if_neg hno]
      exact ih
    | some c =>
      have hid : c.id = normalizeId text := Catalog.id_of_get? h
      rw [if_pos (Catalog.contains_iff.mpr ⟨c, h⟩), ← ih, ← hid]
      rfl

theorem map_id_offers :
    (r.offers boosts pinned s).map (·.id) = r.forcedIds pinned s ++ r.orderedIds boosts s := by
  unfold offers orderedIds
  rw [List.map_append, map_id_forced, List.map_map]
  rfl

/-- Every offer is a raised copy of a chunk of the snapshot. -/
theorem eq_boosted_of_mem_offers {c : Chunk} (h : c ∈ r.offers boosts pinned s) :
    ∃ d, s.get? c.id = some d ∧ c = d.boosted boosts := by
  rcases List.mem_append.mp h with h | h
  · obtain ⟨text, -, htext⟩ := List.mem_filterMap.mp h
    obtain ⟨d, hd, rfl⟩ := Option.map_eq_some_iff.mp htext
    have hid : d.id = normalizeId text := Catalog.id_of_get? hd
    exact ⟨d, by rw [Chunk.boosted_id, hid]; exact hd, rfl⟩
  · obtain ⟨x, hx, rfl⟩ := List.mem_map.mp h
    obtain ⟨d, hd, -, rfl⟩ := mem_candidates.mp (mem_ordered.mp hx)
    exact ⟨d, hd, rfl⟩

theorem tokens_eq_weight {c : Chunk} (h : c ∈ r.offers boosts pinned s) :
    c.tokens = s.weight c.id := by
  obtain ⟨d, hd, rfl⟩ := eq_boosted_of_mem_offers h
  rw [Snapshot.weight_of_get? hd, Chunk.boosted_tokens]

variable (r boosts pinned s)

theorem sound_spent :
    (r.spent boosts pinned s).Sound (r.forcedIds pinned s ++ r.orderedIds boosts s) := by
  rw [← map_id_offers]
  exact Budget.sound_pack _ _

theorem fair_spent :
    (r.spent boosts pinned s).Fair s.weight (r.forcedIds pinned s ++ r.orderedIds boosts s) := by
  rw [← map_id_offers]
  exact Budget.fair_pack _ fun c hc => tokens_eq_weight hc

end SelectionRequest
end Dossier
