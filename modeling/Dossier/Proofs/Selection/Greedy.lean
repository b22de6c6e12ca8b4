import Dossier.Proofs.Binary64.Order
import Dossier.Proofs.Selection.Offers

/-!
# Selections are greedy

Three things are true of a packing that takes what fits, seen from its end. Nothing that was left
out would still fit. The forced files stand in front as they were given, and the others follow in
the order of the strategy. And nothing was left out in favour of a file that is no lighter and comes
later: `Greedy` says so, and `runWith_greedy` that every selection is greedy. All three are read off
the order of first offers, which is the forced ids and then the other candidates.
-/

set_option autoImplicit false

namespace Dossier.SelectionRequest

/-- That a selection takes what fits, the forced files first. -/
structure Greedy (r : SelectionRequest) (boosts : Boosts) (pinned : List String) (s : Snapshot)
    (sel : Selection) : Prop where
  /-- What was left out has more tokens than are left. -/
  maximal : ∀ id ∈ sel.excluded, ∃ c, s.get? id = some c ∧ sel.remainingTokens < c.tokens
  /-- First the forced files, each at its first place, and then the others in their order. -/
  forced_first : sel.chunks.map (·.id) =
    ((r.forcedIds pinned s).eraseDups.filter fun id => id ∈ sel.chunks.map (·.id)) ++
      (r.orderedIds boosts s).filter fun id =>
        id ∈ sel.chunks.map (·.id) ∧ id ∉ r.forcedIds pinned s
  nodup_order : (r.orderedIds boosts s).Nodup
  /-- Of two files that are not forced, a selected one that is no lighter than one left out comes
  before it. The order has every id once, so it does not come after it as well. -/
  no_envy : ∀ x y, s.get? x.id = some x → s.get? y.id = some y →
    ¬ r.Forces pinned s x.id → ¬ r.Forces pinned s y.id →
    x.id ∈ sel.excluded → y.id ∈ sel.chunks.map (·.id) → x.tokens ≤ y.tokens →
      [y.id, x.id].Sublist (r.orderedIds boosts s) ∧
      (r.strategy = .importanceFirst →
        Binary64.rank (x.boosted boosts).importance ≤ Binary64.rank (y.boosted boosts).importance ∧
        ¬ (y.boosted boosts).importance < (x.boosted boosts).importance)

variable {r : SelectionRequest} {boosts : Boosts} {pinned : List String} {s : Snapshot}

/-- In the order of first offers the forced ids stand in front of the other candidates. -/
theorem eraseDups_offered :
    (r.forcedIds pinned s ++ r.orderedIds boosts s).eraseDups =
      (r.forcedIds pinned s).eraseDups ++
        (r.orderedIds boosts s).filter fun id => id ∉ r.forcedIds pinned s := by
  have hremove : (r.orderedIds boosts s).removeAll (r.forcedIds pinned s)
      = (r.orderedIds boosts s).filter fun id => id ∉ r.forcedIds pinned s := by
    unfold List.removeAll
    exact List.filter_congr fun id _ => by simp
  have hnodup := (nodup_orderedIds : (r.orderedIds boosts s).Nodup).filter
    fun id => id ∉ r.forcedIds pinned s
  rw [List.eraseDups_append, hremove, eraseDups_eq_self hnodup]

/-- Ids that are not forced and come in this order at first offers do so in the strategy's order. -/
theorem sublist_orderedIds {ids : List String} (hids : ∀ id ∈ ids, id ∉ r.forcedIds pinned s)
    (h : ids.Sublist (r.forcedIds pinned s ++ r.orderedIds boosts s).eraseDups) :
    ids.Sublist (r.orderedIds boosts s) := by
  rw [eraseDups_offered] at h
  have hfilter := h.filter fun id => id ∉ r.forcedIds pinned s
  have hkeep : (ids.filter fun id => id ∉ r.forcedIds pinned s) = ids :=
    List.filter_eq_self.mpr fun id hid => by simpa using hids id hid
  have hdrop : ((r.forcedIds pinned s).eraseDups.filter fun id => id ∉ r.forcedIds pinned s) = [] :=
    List.filter_eq_nil_iff.mpr fun id hid => by simpa using List.mem_eraseDups.mp hid
  rw [List.filter_append, hkeep, hdrop, List.nil_append] at hfilter
  exact hfilter.trans (List.filter_sublist.trans List.filter_sublist)

/-- Two ids in the order of candidates are the ids of two candidates in this order. -/
theorem boosted_of_sublist_orderedIds {x y : Chunk} (hx : s.get? x.id = some x)
    (hy : s.get? y.id = some y) (h : [y.id, x.id].Sublist (r.orderedIds boosts s)) :
    ∃ a b, [a, b].Sublist (r.ordered boosts s) ∧
      a.chunk = y.boosted boosts ∧ b.chunk = x.boosted boosts := by
  obtain ⟨cs, hcs, hids⟩ := List.sublist_map_iff.mp h
  obtain ⟨a, rest, rfl, ha, hrest⟩ := List.map_eq_cons_iff.mp hids.symm
  obtain ⟨b, none, rfl, hb, hnone⟩ := List.map_eq_cons_iff.mp hrest
  obtain rfl := List.map_eq_nil_iff.mp hnone
  have hchunk : ∀ (z : Candidate) (d : Chunk), z ∈ r.ordered boosts s → z.chunk.id = d.id →
      s.get? d.id = some d → z.chunk = d.boosted boosts := by
    intro z d hz hid hd
    obtain ⟨e, he, -, rfl⟩ := mem_candidates.mp (mem_ordered.mp hz)
    rw [← hid] at hd
    rw [Option.some.inj (hd.symm.trans he)]
  exact ⟨a, b, hcs, hchunk a y (hcs.subset (by simp)) ha hy,
    hchunk b x (hcs.subset (by simp)) hb hx⟩

/-- By importance, what comes first is no less important. -/
theorem rank_le_of_sublist_orderedIds {x y : Chunk} (hx : s.get? x.id = some x)
    (hy : s.get? y.id = some y) (h : [y.id, x.id].Sublist (r.orderedIds boosts s))
    (hstrategy : r.strategy = .importanceFirst) :
    Binary64.rank (x.boosted boosts).importance ≤ Binary64.rank (y.boosted boosts).importance := by
  obtain ⟨a, b, hab, ha, hb⟩ := boosted_of_sublist_orderedIds hx hy h
  have hsorted :=
    Candidate.pairwise_order_importanceFirst (!r.words.isEmpty) (r.candidates boosts s)
  unfold ordered at hab
  rw [hstrategy] at hab
  rw [← ha, ← hb]
  exact List.pairwise_iff_forall_sublist.mp hsorted hab

/-- **Every selection is greedy**, whatever the strategy and the forced files. -/
theorem runWith_greedy (r : SelectionRequest) (boosts : Boosts) (pinned : List String)
    (s : Snapshot) : r.Greedy boosts pinned s (r.runWith boosts pinned s) := by
  have hsound := r.sound_spent boosts pinned s
  have hfair := r.fair_spent boosts pinned s
  rw [runWith_eq]
  refine
    { maximal := fun id hid => ?_
      forced_first := ?_
      nodup_order := nodup_orderedIds
      no_envy := ?_ }
  · obtain ⟨c, hc⟩ : ∃ c, s.get? id = some c := by
      rcases List.mem_append.mp ((hsound.decided id).mp (.inr hid)) with h | h
      · exact (mem_forcedIds.mp h).2
      · obtain ⟨c, hc, -⟩ := mem_orderedIds.mp h
        exact ⟨c, hc⟩
    exact ⟨c, hc, Snapshot.weight_of_get? hc ▸ hfair.too_large id hid⟩
  · have hids := hfair.ids_eq
    rw [eraseDups_offered, List.filter_append, List.filter_filter] at hids
    refine hids.trans ?_
    congr 1
    exact List.filter_congr fun id _ => (Bool.decide_and _ _).symm
  · intro x y hx hy hforcedx hforcedy hexcluded hselected htokens
    have hweight : s.weight x.id ≤ s.weight y.id := by
      rw [Snapshot.weight_of_get? hx, Snapshot.weight_of_get? hy]
      exact htokens
    have hbefore := hfair.before x.id hexcluded y.id hselected hweight
    have horder : [y.id, x.id].Sublist (r.orderedIds boosts s) := by
      refine sublist_orderedIds ?_ hbefore
      simp only [List.mem_cons, List.not_mem_nil, or_false, forall_eq_or_imp, forall_eq,
        mem_forcedIds]
      exact ⟨hforcedy, hforcedx⟩
    refine ⟨horder, fun hstrategy => ?_⟩
    have hrank := rank_le_of_sublist_orderedIds hx hy horder hstrategy
    exact ⟨hrank, fun hlt => absurd (Binary64.rank_lt_of_lt hlt) (Int.not_lt.mpr hrank)⟩

end Dossier.SelectionRequest
