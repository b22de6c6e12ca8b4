import Dossier.Catalog
import Mathlib.Data.List.Nodup

/-!
# Catalogs, listed and looked up

A catalog is read in two ways: one asks for the chunk of an id, or lists all chunks. The two agree
(`mem_toList`), and the list has every id once, in ascending order. A catalog made from chunks that
do not contend for an id holds exactly these (`get?_ofList`), and is listed in the one way there is
(`eq_of_ordered`), in whatever order they came and however often.
-/

set_option autoImplicit false

namespace Dossier

/-- The values of a map are those of its listing, in the same order. -/
theorem treeMap_values_eq {α β : Type} {cmp : α → α → Ordering} (t : Std.TreeMap α β cmp) :
    t.values = t.toList.map Prod.snd := by
  have hfold : t.values = t.foldr (fun _ b bs => b :: bs) [] := rfl
  rw [hfold, Std.TreeMap.foldr_eq_foldr_toList]
  induction t.toList with
  | nil => rfl
  | cons p ps ih => rw [List.foldr_cons, ih, List.map_cons]

namespace Catalog

theorem id_of_get? {k : Catalog} {id : String} {c : Chunk} (h : k.get? id = some c) : c.id = id :=
  k.keyed id c h

theorem mem_toList {k : Catalog} {c : Chunk} : c ∈ k.toList ↔ k.get? c.id = some c := by
  unfold toList get?
  rw [treeMap_values_eq, List.mem_map]
  constructor
  · rintro ⟨⟨id, d⟩, hmem, rfl⟩
    have hd : k.byId[id]? = some d := Std.TreeMap.mem_toList_iff_getElem?_eq_some.mp hmem
    rw [k.keyed id d hd]
    exact hd
  · intro h
    exact ⟨(c.id, c), Std.TreeMap.mem_toList_iff_getElem?_eq_some.mpr h, rfl⟩

/-- A chunk that is found is listed. -/
theorem mem_toList_of_get? {k : Catalog} {id : String} {c : Chunk} (h : k.get? id = some c) :
    c ∈ k.toList := by
  have hid := id_of_get? h
  subst hid
  exact mem_toList.mpr h

/-- The listing goes through the ids. -/
theorem map_id_toList (k : Catalog) : k.toList.map (·.id) = k.ids := by
  unfold toList ids
  rw [treeMap_values_eq, ← Std.TreeMap.map_fst_toList_eq_keys, List.map_map]
  refine List.map_congr_left fun p hp => ?_
  exact k.keyed p.1 p.2 (Std.TreeMap.mem_toList_iff_getElem?_eq_some.mp hp)

theorem ordered_ids (k : Catalog) : k.ids.Pairwise fun a b => compare a b = .lt :=
  Std.TreeMap.ordered_keys

theorem nodup_ids (k : Catalog) : k.ids.Nodup :=
  Std.TreeMap.nodup_keys

theorem nodup_map_id (k : Catalog) : (k.toList.map (·.id)).Nodup := by
  rw [map_id_toList]
  exact k.nodup_ids

/-- An id is the id of one listed chunk. -/
theorem filter_toList {k : Catalog} {c : Chunk} (hc : c ∈ k.toList) :
    (k.toList.filter fun d => d.id = c.id) = [c] := by
  have hnodup : k.toList.Nodup := List.Nodup.of_map _ k.nodup_map_id
  refine List.perm_singleton.mp ((List.perm_ext_iff_of_nodup (hnodup.filter _)
    (List.nodup_singleton c)).mpr fun d => ?_)
  rw [List.mem_filter, decide_eq_true_eq, List.mem_singleton]
  constructor
  · rintro ⟨hd, hid⟩
    exact List.inj_on_of_nodup_map k.nodup_map_id hd hc hid
  · rintro rfl
    exact ⟨hc, rfl⟩

theorem contains_iff {k : Catalog} {id : String} :
    k.contains id = true ↔ ∃ c, k.get? id = some c := by
  unfold contains get?
  rw [Std.TreeMap.contains_eq_isSome_getElem?, Option.isSome_iff_exists]

theorem mem_ids {k : Catalog} {id : String} : id ∈ k.ids ↔ ∃ c, k.get? id = some c := by
  unfold ids
  rw [Std.TreeMap.mem_keys, ← Std.TreeMap.contains_iff_mem]
  exact contains_iff

theorem get?_insert (k : Catalog) (c : Chunk) (id : String) :
    (k.insert c).get? id = if c.id = id then some c else k.get? id := by
  unfold get? insert
  rw [Std.TreeMap.getElem?_insert]
  simp only [Std.LawfulEqCmp.compare_eq_iff_eq]

theorem get?_empty (id : String) : empty.get? id = none := by
  simp [get?, empty]

/-- A list of chunks puts its own chunks into a catalog, and leaves those under other ids. -/
theorem get?_foldl_insert {cs : List Chunk} (hcs : ∀ c ∈ cs, ∀ d ∈ cs, c.id = d.id → c = d)
    (k : Catalog) (id : String) (c : Chunk) :
    (cs.foldl insert k).get? id = some c ↔
      (c ∈ cs ∧ c.id = id) ∨ (id ∉ cs.map (·.id) ∧ k.get? id = some c) := by
  induction cs generalizing k with
  | nil => simp
  | cons d ds ih =>
    have hds : ∀ c ∈ ds, ∀ e ∈ ds, c.id = e.id → c = e := fun c hc e he =>
      hcs c (List.mem_cons_of_mem _ hc) e (List.mem_cons_of_mem _ he)
    rw [List.foldl_cons, ih hds, get?_insert]
    by_cases hid : d.id = id
    · -- A chunk further on may have the id of this one, but then it is this one again.
      subst hid
      have hsame : c ∈ ds → c.id = d.id → c = d := fun hc =>
        hcs c (List.mem_cons_of_mem _ hc) d (List.mem_cons_self ..)
      have hid : d.id ∈ ds.map (·.id) → d ∈ ds := by
        intro hmem
        obtain ⟨e, he, heq⟩ := List.mem_map.mp hmem
        rwa [← hcs e (List.mem_cons_of_mem _ he) d (List.mem_cons_self ..) heq]
      simp only [if_true, List.map_cons, List.mem_cons, Option.some.injEq]
      grind
    · simp only [if_neg hid, List.map_cons, List.mem_cons]
      grind

/-- What a catalog of chunks holds is one of them. -/
theorem mem_of_mem_toList_ofList {cs : List Chunk} {c : Chunk} (h : c ∈ (ofList cs).toList) :
    c ∈ cs := by
  have hfold : ∀ (ds : List Chunk) (k : Catalog) (id : String),
      (ds.foldl insert k).get? id = some c → c ∈ ds ∨ k.get? id = some c := by
    intro ds
    induction ds with
    | nil => exact fun _ _ hc => .inr hc
    | cons d ds ih =>
      intro k id hc
      rcases ih (k.insert d) id hc with hmem | hinsert
      · exact .inl (List.mem_cons_of_mem _ hmem)
      · rw [get?_insert] at hinsert
        split at hinsert
        · cases hinsert
          exact .inl (List.mem_cons_self ..)
        · exact .inr hinsert
  rcases hfold cs empty c.id (mem_toList.mp h) with hmem | hempty
  · exact hmem
  · rw [get?_empty] at hempty
    cases hempty

/-- A catalog of chunks that do not contend for an id holds exactly these. -/
theorem get?_ofList {cs : List Chunk} (hcs : ∀ c ∈ cs, ∀ d ∈ cs, c.id = d.id → c = d)
    {id : String} {c : Chunk} : (ofList cs).get? id = some c ↔ c ∈ cs ∧ c.id = id := by
  unfold ofList
  rw [get?_foldl_insert hcs, get?_empty]
  simp

theorem mem_toList_ofList {cs : List Chunk} (hcs : ∀ c ∈ cs, ∀ d ∈ cs, c.id = d.id → c = d)
    {c : Chunk} : c ∈ (ofList cs).toList ↔ c ∈ cs := by
  rw [mem_toList, get?_ofList hcs]
  simp

/-! ## Canonical listings -/

theorem ordered_toList (k : Catalog) : k.toList.Pairwise fun c d => compare c.id d.id = .lt := by
  have hsorted := k.ordered_ids
  rw [← map_id_toList] at hsorted
  exact List.pairwise_map.mp hsorted

/-- There is one list of given chunks in ascending order of their ids. -/
theorem eq_of_ordered {cs ds : List Chunk} (hcs : cs.Pairwise fun c d => compare c.id d.id = .lt)
    (hds : ds.Pairwise fun c d => compare c.id d.id = .lt) (hmem : ∀ c, c ∈ cs ↔ c ∈ ds) :
    cs = ds := by
  have hne : ∀ {c d : Chunk}, compare c.id d.id = .lt → c ≠ d := by
    rintro c _ hlt rfl
    simp at hlt
  refine List.Perm.eq_of_pairwise ?_ hcs hds
    ((List.perm_ext_iff_of_nodup (hcs.imp hne) (hds.imp hne)).mpr hmem)
  intro c d _ _ hcd hdc
  exact absurd hdc (Std.OrientedCmp.not_lt_of_lt hcd)

/-- Chunks that come in ascending order of their ids are listed as they came. -/
theorem toList_ofList {cs : List Chunk} (hcs : cs.Pairwise fun c d => compare c.id d.id = .lt) :
    (ofList cs).toList = cs := by
  have hid : (cs.map (·.id)).Nodup := by
    refine List.pairwise_map.mpr (hcs.imp ?_)
    intro c d hlt heq
    rw [heq] at hlt
    simp at hlt
  have hown : ∀ c ∈ cs, ∀ d ∈ cs, c.id = d.id → c = d := fun c hc d hd heq =>
    List.inj_on_of_nodup_map hid hc hd heq
  exact eq_of_ordered (ofList cs).ordered_toList hcs fun c => mem_toList_ofList hown

end Catalog
end Dossier
