import Dossier.Proofs.Selection.Offers
import Mathlib.Data.Set.Card

/-!
# The accounts of a selection

Forced ids go past the filters, may be given twice, in several spellings, without a chunk, or too
large for the budget, and are offered again among the candidates. `Accounted` says that all the same
nothing is lost, counted twice or reported on both sides, and `runWith_accounted` that every
selection is accounted so. What is packed and what is excluded come from the invariants of packing;
the number of files follows from both being sets that share out what was offered.
-/

set_option autoImplicit false

namespace Dossier.SelectionRequest

/-- That a selection is a full account of what was asked. -/
structure Accounted (r : SelectionRequest) (boosts : Boosts) (pinned : List String) (s : Snapshot)
    (sel : Selection) : Prop where
  /-- What is selected are chunks of the snapshot, raised for the request. -/
  chosen : ∀ c ∈ sel.chunks, ∃ d, s.get? c.id = some d ∧ c = d.boosted boosts
  nodup_chosen : (sel.chunks.map (·.id)).Nodup
  /-- The total is the sum of the tokens, with no wrap. -/
  total : sel.totalTokens.toNat = (sel.chunks.map (·.tokens.toNat)).sum
  within : sel.totalTokens ≤ r.maxTokens
  balance : sel.totalTokens.toNat + sel.remainingTokens.toNat = r.maxTokens.toNat
  nodup_excluded : sel.excluded.Nodup
  disjoint : ∀ id ∈ sel.excluded, id ∉ sel.chunks.map (·.id)
  /-- What is decided is what goes first or passes the filters. -/
  decided : ∀ id, id ∈ sel.chunks.map (·.id) ∨ id ∈ sel.excluded ↔
    r.Forces pinned s id ∨ ∃ c, s.get? id = some c ∧ r.Passes boosts c
  selected : sel.filesSelected = sel.chunks.length
  considered : sel.filesConsidered = {id | ∃ c, s.get? id = some c ∧ r.Passes boosts c}.ncard
  /-- Beyond the files considered, just the forced ones that fail the filters were decided. -/
  counted : sel.filesSelected + sel.excluded.length = sel.filesConsidered +
    {id | r.Forces pinned s id ∧ ¬ ∃ c, s.get? id = some c ∧ r.Passes boosts c}.ncard

variable {r : SelectionRequest} {boosts : Boosts} {pinned : List String} {s : Snapshot}

theorem ncard_passing :
    {id | ∃ c, s.get? id = some c ∧ r.Passes boosts c}.ncard = (r.candidates boosts s).length := by
  have hset : {id | ∃ c, s.get? id = some c ∧ r.Passes boosts c}
      = ((r.orderedIds boosts s).toFinset : Set String) := by
    ext id
    rw [Set.mem_ofPred_eq, Finset.mem_coe, List.mem_toFinset, mem_orderedIds]
  rw [hset, Set.ncard_coe_finset, List.toFinset_card_of_nodup nodup_orderedIds, length_orderedIds]

theorem ncard_outsiders :
    {id | r.Forces pinned s id ∧ ¬ ∃ c, s.get? id = some c ∧ r.Passes boosts c}.ncard
      = ((r.forcedIds pinned s).toFinset \ (r.orderedIds boosts s).toFinset).card := by
  rw [← Set.ncard_coe_finset]
  congr 1
  ext id
  rw [Set.mem_ofPred_eq, Finset.mem_coe, Finset.mem_sdiff, List.mem_toFinset, List.mem_toFinset,
    mem_forcedIds, mem_orderedIds]

theorem length_decided {ids excluded forced ordered : List String} (hids : ids.Nodup)
    (hexcluded : excluded.Nodup) (hdisjoint : ∀ id ∈ excluded, id ∉ ids) (hordered : ordered.Nodup)
    (hdecided : ∀ id, id ∈ ids ∨ id ∈ excluded ↔ id ∈ forced ++ ordered) :
    ids.length + excluded.length = ordered.length + (forced.toFinset \ ordered.toFinset).card := by
  have hnodup : (ids ++ excluded).Nodup :=
    List.nodup_append.mpr ⟨hids, hexcluded, fun a ha b hb hab => hdisjoint b hb (hab ▸ ha)⟩
  have hset : (ids ++ excluded).toFinset = forced.toFinset ∪ ordered.toFinset := by
    ext id
    rw [List.mem_toFinset, List.mem_append, hdecided, List.mem_append, Finset.mem_union,
      List.mem_toFinset, List.mem_toFinset]
  calc ids.length + excluded.length
      = (ids ++ excluded).toFinset.card := by
        rw [List.toFinset_card_of_nodup hnodup, List.length_append]
    _ = (forced.toFinset \ ordered.toFinset).card + ordered.toFinset.card := by
        rw [hset, Finset.card_sdiff_add_card]
    _ = ordered.length + (forced.toFinset \ ordered.toFinset).card := by
        rw [List.toFinset_card_of_nodup hordered, Nat.add_comm]

/-- **Every selection is a full account**, whatever the filters, the boosts and the forced ids. -/
theorem runWith_accounted (r : SelectionRequest) (boosts : Boosts) (pinned : List String)
    (s : Snapshot) : r.Accounted boosts pinned s (r.runWith boosts pinned s) := by
  have hsound := r.sound_spent boosts pinned s
  have hfair := r.fair_spent boosts pinned s
  have hlimit : (r.spent boosts pinned s).limit = r.maxTokens := Budget.limit_pack _ _
  have hle : (r.spent boosts pinned s).used ≤ r.maxTokens := hlimit ▸ hsound.used_le
  rw [runWith_eq]
  refine
    { chosen := fun c hc => eq_boosted_of_mem_offers (Budget.mem_packed_pack hc)
      nodup_chosen := hsound.nodup_ids
      total := hsound.used_eq
      within := hle
      balance := ?_
      nodup_excluded := hsound.nodup_excluded
      disjoint := hfair.disjoint
      decided := fun id => ?_
      selected := Array.length_toList.symm
      considered := ncard_passing.symm
      counted := ?_ }
  · show (r.spent boosts pinned s).used.toNat + (r.spent boosts pinned s).available.toNat = _
    rw [Budget.available_toNat hsound.used_le, hlimit]
    exact Nat.add_sub_of_le (UInt32.le_iff_toNat_le.mp hle)
  · have hid := hsound.decided id
    rw [List.mem_append, mem_forcedIds, mem_orderedIds] at hid
    exact hid
  · have hcount := length_decided hsound.nodup_ids hsound.nodup_excluded hfair.disjoint
      (nodup_orderedIds : (r.orderedIds boosts s).Nodup) hsound.decided
    rw [length_orderedIds, ← ncard_outsiders] at hcount
    have hids : (r.spent boosts pinned s).ids.length = (r.spent boosts pinned s).packed.size := by
      rw [Budget.ids, List.length_map, Array.length_toList]
    rw [hids] at hcount
    exact hcount

end Dossier.SelectionRequest
