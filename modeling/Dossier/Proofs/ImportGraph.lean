import Dossier.ImportGraph
import Mathlib.Data.List.Nodup
import Mathlib.Tactic.Common

/-!
# Edges of import graphs

A graph is a map of sets, and is read by the targets of a source. What is added is there afterwards
and nothing else (`mem_targets_addEdge`), so the converse has just the edges of the graph turned
round (`mem_targets_converse`). A graph made by adding edges has no source without targets (`Full`).
-/

set_option autoImplicit false

namespace Dossier.ImportGraph

/-- That no source has an empty set of targets. -/
def Full (g : ImportGraph) : Prop :=
  ∀ (source : String) (ts : Std.TreeSet String), g.bySource[source]? = some ts → ts.isEmpty = false

theorem mem_targets {g : ImportGraph} {source target : String} :
    target ∈ g.targets source ↔ ∃ ts, g.bySource[source]? = some ts ∧ target ∈ ts := by
  unfold targets
  cases h : g.bySource[source]? with
  | none => simp
  | some ts => simp [Std.TreeSet.mem_toList]

theorem nodup_targets (g : ImportGraph) (source : String) : (g.targets source).Nodup := by
  unfold targets
  cases g.bySource[source]? with
  | none => exact List.nodup_nil
  | some ts =>
    refine ts.distinct_toList.imp ?_
    intro a b hne heq
    exact hne (Std.LawfulEqCmp.compare_eq_iff_eq.mpr heq)

/-- The number of targets is the number of targets listed. -/
theorem outDegree_eq (g : ImportGraph) (source : String) :
    g.outDegree source = (g.targets source).length := by
  unfold outDegree targets
  cases g.bySource[source]? with
  | none => rfl
  | some ts => exact ts.length_toList.symm

theorem mem_toList {g : ImportGraph} {source : String} {targets : List String} :
    (source, targets) ∈ g.toList ↔
      ∃ ts, g.bySource[source]? = some ts ∧ targets = ts.toList := by
  unfold toList
  rw [List.mem_map]
  constructor
  · rintro ⟨⟨there, ts⟩, hmem, heq⟩
    obtain ⟨rfl, rfl⟩ := Prod.mk.inj heq
    exact ⟨ts, Std.TreeMap.mem_toList_iff_getElem?_eq_some.mp hmem, rfl⟩
  · rintro ⟨ts, hts, rfl⟩
    exact ⟨(source, ts), Std.TreeMap.mem_toList_iff_getElem?_eq_some.mpr hts, rfl⟩

theorem mem_edges {g : ImportGraph} {source target : String} :
    (source, target) ∈ g.edges ↔ target ∈ g.targets source := by
  unfold edges
  rw [List.mem_flatMap, mem_targets]
  constructor
  · rintro ⟨⟨there, targets⟩, hlisted, hmem⟩
    obtain ⟨ts, hts, rfl⟩ := mem_toList.mp hlisted
    obtain ⟨t, ht, heq⟩ := List.mem_map.mp hmem
    obtain ⟨rfl, rfl⟩ := Prod.mk.inj heq
    exact ⟨ts, hts, Std.TreeSet.mem_toList.mp ht⟩
  · rintro ⟨ts, hts, ht⟩
    exact ⟨(source, ts.toList), mem_toList.mpr ⟨ts, hts, rfl⟩,
      List.mem_map.mpr ⟨target, Std.TreeSet.mem_toList.mpr ht, rfl⟩⟩

/-- In a full graph a listed source has targets. -/
theorem Full.ne_nil {g : ImportGraph} (hg : g.Full) {source : String} {targets : List String}
    (h : (source, targets) ∈ g.toList) : targets ≠ [] := by
  obtain ⟨ts, hts, rfl⟩ := mem_toList.mp h
  intro hnil
  have hempty := ts.isEmpty_toList
  rw [hnil, hg source ts hts] at hempty
  cases hempty

/-- A source that is listed is one that has its targets. -/
theorem targets_of_mem_toList {g : ImportGraph} {source : String} {targets : List String}
    (h : (source, targets) ∈ g.toList) : g.targets source = targets := by
  obtain ⟨ts, hts, rfl⟩ := mem_toList.mp h
  unfold ImportGraph.targets
  rw [hts]
  rfl

/-! ## Adding edges -/

theorem not_mem_targets_empty (source target : String) : target ∉ empty.targets source := by
  simp [targets, empty]

theorem full_empty : empty.Full := by
  intro source ts h
  simp [empty] at h

theorem mem_targets_addEdge {g : ImportGraph} {a b source target : String} :
    target ∈ (g.addEdge a b).targets source ↔
      (source = a ∧ target = b) ∨ target ∈ g.targets source := by
  rw [mem_targets, mem_targets]
  unfold addEdge
  rw [Std.TreeMap.getElem?_alter]
  simp only [Std.LawfulEqCmp.compare_eq_iff_eq]
  by_cases hsource : a = source
  · subst hsource
    rw [if_pos rfl]
    -- The first edge from a source makes its set, the others go into it.
    cases g.bySource[a]? with
    | none => simp [Std.TreeSet.mem_insert, Std.LawfulEqCmp.compare_eq_iff_eq, @eq_comm _ b]
    | some ts => simp [Std.TreeSet.mem_insert, Std.LawfulEqCmp.compare_eq_iff_eq, @eq_comm _ b]
  · rw [if_neg hsource]
    simp [Ne.symm hsource]

theorem Full.addEdge {g : ImportGraph} (hg : g.Full) (a b : String) : (g.addEdge a b).Full := by
  intro source ts h
  unfold ImportGraph.addEdge at h
  rw [Std.TreeMap.getElem?_alter] at h
  split at h
  · cases h
    exact Std.TreeSet.isEmpty_insert
  · exact hg source ts h

theorem mem_targets_addEdges {g : ImportGraph} {a source target : String} {bs : List String} :
    target ∈ (g.addEdges a bs).targets source ↔
      (source = a ∧ target ∈ bs) ∨ target ∈ g.targets source := by
  unfold addEdges
  induction bs generalizing g with
  | nil => simp
  | cons b bs ih =>
    rw [List.foldl_cons, ih, mem_targets_addEdge, List.mem_cons]
    constructor
    · rintro (⟨rfl, hmem⟩ | ⟨rfl, rfl⟩ | hmem)
      · exact .inl ⟨rfl, .inr hmem⟩
      · exact .inl ⟨rfl, .inl rfl⟩
      · exact .inr hmem
    · rintro (⟨rfl, rfl | hmem⟩ | hmem)
      · exact .inr (.inl ⟨rfl, rfl⟩)
      · exact .inl ⟨rfl, hmem⟩
      · exact .inr (.inr hmem)

theorem Full.addEdges {g : ImportGraph} (hg : g.Full) (a : String) (bs : List String) :
    (g.addEdges a bs).Full := by
  unfold ImportGraph.addEdges
  induction bs generalizing g with
  | nil => exact hg
  | cons b bs ih => exact ih (hg.addEdge a b)

/-! ## The converse -/

theorem mem_targets_foldl_flip {es : List (String × String)} {g : ImportGraph}
    {source target : String} :
    target ∈ (es.foldl (fun r (s, t) => r.addEdge t s) g).targets source ↔
      (target, source) ∈ es ∨ target ∈ g.targets source := by
  induction es generalizing g with
  | nil => simp
  | cons e es ih =>
    obtain ⟨s, t⟩ := e
    rw [List.foldl_cons, ih, mem_targets_addEdge, List.mem_cons, Prod.mk.injEq]
    constructor
    · rintro (hmem | ⟨rfl, rfl⟩ | hmem)
      · exact .inl (.inr hmem)
      · exact .inl (.inl ⟨rfl, rfl⟩)
      · exact .inr hmem
    · rintro ((⟨rfl, rfl⟩ | hmem) | hmem)
      · exact .inr (.inl ⟨rfl, rfl⟩)
      · exact .inl hmem
      · exact .inr (.inr hmem)

/-- **The converse has the edges of the graph, turned round.** -/
theorem mem_targets_converse {g : ImportGraph} {source target : String} :
    source ∈ g.converse.targets target ↔ target ∈ g.targets source := by
  unfold converse
  rw [mem_targets_foldl_flip, mem_edges]
  simp [not_mem_targets_empty]

theorem full_converse (g : ImportGraph) : g.converse.Full := by
  have hfold : ∀ (es : List (String × String)) (r : ImportGraph), r.Full →
      (es.foldl (fun r (s, t) => r.addEdge t s) r).Full := by
    intro es
    induction es with
    | nil => exact fun _ hr => hr
    | cons e es ih => exact fun r hr => ih _ (hr.addEdge e.2 e.1)
  exact hfold g.edges empty full_empty

end Dossier.ImportGraph
