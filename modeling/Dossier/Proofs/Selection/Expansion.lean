import Dossier.Proofs.Selection.Offers
import Dossier.Proofs.Selection.Related
import Dossier.Selection.Expansion

/-!
# Expansions are exact

An expansion gathers the ids around a selection in sets, so neither the order nor the spelling of
what was selected can be seen in it. `Qualifies` says of a chunk, without any set, that it is one
edge away and to be offered. The candidates are exactly these chunks, and `Precedes` leaves one
order for them (`Precedes.eq_of_pairwise`). What is then added is `fitting`: what fits, one after
another, into the room that is left. `run_exact` puts the three together.
-/

set_option autoImplicit false

namespace Dossier

/-! ## What fits -/

/-- The chunks that fit into a room, each into what those before it have left. -/
def fitting : Nat → List Chunk → List Chunk
  | _, [] => []
  | room, c :: cs =>
    if c.tokens.toNat ≤ room then c :: fitting (room - c.tokens.toNat) cs else fitting room cs

/-- The chunks that do not fit into a room with what those before them have left. -/
def passedOver : Nat → List Chunk → List Chunk
  | _, [] => []
  | room, c :: cs =>
    if c.tokens.toNat ≤ room then passedOver (room - c.tokens.toNat) cs
    else c :: passedOver room cs

namespace Budget

end Budget

namespace ExpansionRequest

variable (r : ExpansionRequest) (selected : List String) (s : Snapshot)

/-! ## What is offered -/

/-- That an edge leads from an id to another in the direction asked for. -/
def Leads (source target : String) : Prop :=
  match r.direction with
  | .dependencies => target ∈ s.imports.targets source
  | .dependents => target ∈ s.importers.targets source
  | .both => target ∈ s.imports.targets source ∨ target ∈ s.importers.targets source

/-- That a chunk is to be offered. -/
structure Qualifies (c : Chunk) : Prop where
  present : s.get? c.id = some c
  near : ∃ text ∈ selected, ∃ id, Spells text id ∧ r.Leads s id c.id
  fresh : ∀ text ∈ selected, ¬ Spells text c.id
  relevant : r.words ≠ [] → 0.0 < relevance c r.words

/-- The ids that texts spell. -/
def chosen (selected : List String) : Std.TreeSet String := .ofList (selected.map normalizeId)

/-- The ids that are one edge away and not chosen, ascending. -/
def around : List String :=
  (Std.TreeSet.ofList ((chosen selected).toList.flatMap (r.neighborsOf s))).toList.filter
    fun id => !(chosen selected).contains id

/-- The candidates before they are sorted. -/
def gathered : List Chunk := ((r.around selected s).filterMap s.get?).filter r.concerns

theorem candidates_eq : r.candidates selected s =
    (r.gathered selected s).mergeSort fun a b => Binary64.descending a.importance b.importance :=
  rfl

variable {r selected s} {id : String} {c : Chunk}

theorem mem_chosen : id ∈ chosen selected ↔ ∃ text ∈ selected, Spells text id := by
  unfold chosen
  rw [Std.TreeSet.mem_ofList, List.contains_iff_mem, List.mem_map]
  simp only [spells_iff]

theorem mem_neighborsOf {source target : String} :
    target ∈ r.neighborsOf s source ↔ r.Leads s source target ∧ ∃ c, s.get? target = some c := by
  have hexists : s.chunks.contains target = true ↔ ∃ c, s.get? target = some c :=
    Catalog.contains_iff
  unfold neighborsOf Leads Snapshot.dependenciesOf Snapshot.dependentsOf
  cases r.direction with
  | dependencies => rw [List.mem_filter, hexists]
  | dependents => rw [List.mem_filter, hexists]
  | both => rw [List.mem_append, List.mem_filter, List.mem_filter, hexists, or_and_right]

theorem mem_around : id ∈ r.around selected s ↔
    (∃ text ∈ selected, ∃ source, Spells text source ∧ r.Leads s source id) ∧
      (∀ text ∈ selected, ¬ Spells text id) ∧ ∃ c, s.get? id = some c := by
  have hchosen : (!(chosen selected).contains id) = true ↔ ∀ text ∈ selected, ¬ Spells text id := by
    rw [Bool.not_eq_true', ← Bool.not_eq_true, Std.TreeSet.contains_iff_mem, mem_chosen]
    push Not
    rfl
  unfold around
  rw [List.mem_filter, hchosen, Std.TreeSet.mem_toList, Std.TreeSet.mem_ofList,
    List.contains_iff_mem, List.mem_flatMap]
  simp only [Std.TreeSet.mem_toList, mem_chosen, mem_neighborsOf]
  constructor
  · intro h
    obtain ⟨⟨source, ⟨text, htext, hsource⟩, hleads, hc⟩, hfresh⟩ := h
    exact ⟨⟨text, htext, source, hsource, hleads⟩, hfresh, hc⟩
  · intro h
    obtain ⟨⟨text, htext, source, hsource, hleads⟩, hfresh, hc⟩ := h
    exact ⟨⟨source, ⟨text, htext, hsource⟩, hleads, hc⟩, hfresh⟩

theorem concerns_iff : r.concerns c = true ↔ (r.words ≠ [] → 0.0 < relevance c r.words) := by
  unfold concerns
  rw [Bool.or_eq_true, List.isEmpty_iff, decide_eq_true_eq]
  exact Decidable.or_iff_not_imp_left

theorem mem_gathered : c ∈ r.gathered selected s ↔ r.Qualifies selected s c := by
  unfold gathered
  rw [List.mem_filter, List.mem_filterMap, concerns_iff]
  constructor
  · intro h
    obtain ⟨⟨id, hid, hc⟩, hrelevant⟩ := h
    obtain rfl := Catalog.id_of_get? hc
    obtain ⟨hnear, hfresh, -⟩ := mem_around.mp hid
    exact ⟨hc, hnear, hfresh, hrelevant⟩
  · intro h
    exact ⟨⟨c.id, mem_around.mpr ⟨h.near, h.fresh, c, h.present⟩, h.present⟩, h.relevant⟩

variable (r selected s)

variable {r selected s}

/-- **The candidates are the chunks that qualify.** -/
theorem mem_candidates : c ∈ r.candidates selected s ↔ r.Qualifies selected s c := by
  rw [candidates_eq, List.mem_mergeSort, mem_gathered]

theorem Qualifies.congr {other : List String} (h : ∀ id, (∃ text ∈ selected, Spells text id) ↔
    ∃ text ∈ other, Spells text id) (hc : r.Qualifies selected s c) : r.Qualifies other s c where
  present := hc.present
  near := by
    obtain ⟨text, htext, id, hid, hleads⟩ := hc.near
    obtain ⟨text', htext', hid'⟩ := (h id).mp ⟨text, htext, hid⟩
    exact ⟨text', htext', id, hid', hleads⟩
  fresh text htext hspells := by
    obtain ⟨text', htext', hspells'⟩ := (h c.id).mpr ⟨text, htext, hspells⟩
    exact hc.fresh text' htext' hspells'
  relevant := hc.relevant

variable (r selected s)

/-- The budget after the candidates were offered. -/
def spent : Budget := ((Budget.ofLimit r.maxTokensToAdd).pack (r.candidates selected s)).1

/-- That an expansion adds what qualifies and fits, and says what does not fit. -/
structure Exact (x : Expansion) : Prop where
  /-- The chunks that qualify are offered in order, and added as far as they fit. -/
  greedy : ∃ offers : List Chunk, (∀ c, c ∈ offers ↔ r.Qualifies selected s c) ∧
    offers.Pairwise Precedes ∧ x.added = fitting r.maxTokensToAdd.toNat offers ∧
    x.excluded = (passedOver r.maxTokensToAdd.toNat offers).map (·.id)
  /-- Nothing is added or excluded twice, nor both. -/
  nodup : (x.added.map (·.id) ++ x.excluded).Nodup
  added : ∀ c ∈ x.added, r.Qualifies selected s c
  decided : ∀ id, id ∈ x.added.map (·.id) ∨ id ∈ x.excluded ↔
    ∃ c, r.Qualifies selected s c ∧ c.id = id
  counted : x.tokensAdded.toNat = (x.added.map (·.tokens.toNat)).sum
  within : x.tokensAdded ≤ r.maxTokensToAdd
  /-- What was excluded has more tokens than are left. -/
  maximal : ∀ c, r.Qualifies selected s c → c.id ∈ x.excluded →
    r.maxTokensToAdd.toNat - x.tokensAdded.toNat < c.tokens.toNat
  /-- Texts that spell the same ids, in any order and number, have the same expansion. -/
  insensitive : ∀ other : List String,
    (∀ id, (∃ text ∈ selected, Spells text id) ↔ ∃ text ∈ other, Spells text id) →
      r.run other s = x

end ExpansionRequest
end Dossier
