import Dossier.Selection.Candidate
import Mathlib.Data.List.Flatten
import Mathlib.Data.List.Perm.Basic
import Mathlib.Data.String.Basic

/-!
# Strategies only rearrange

Whatever the strategy, the candidates in order are the candidates (`order_perm`). Sorting is known
to do this, and leaves what is level in the order it had (`pairwise_mergeSort_stable`); so what came
in ascending order of ids is in the order of `Precedes` when it is sorted by importance. For the
rounds over directories it takes two steps: the rounds go through all queues to their ends, and the
queues, one for each directory that occurs, share out the candidates.
-/

set_option autoImplicit false

namespace Dossier

/-! ## Stable sorting -/

section Sorting

variable {α : Type} {le : α → α → Bool}

/-- Sorting leaves the elements that are level with a given one in the order they had. -/
theorem filter_mergeSort (htrans : ∀ a b c, le a b = true → le b c = true → le a c = true)
    (htotal : ∀ a b, (le a b || le b a) = true) (l : List α) (a : α) :
    (l.mergeSort le).filter (fun b => le a b && le b a) = l.filter fun b => le a b && le b a := by
  -- Elements that are level with one are in order already, so sorting keeps them as a sublist.
  have hsorted : (l.filter fun b => le a b && le b a).Pairwise fun b c => le b c = true := by
    refine List.pairwise_of_forall_mem_list fun b hb c hc => ?_
    have hba := (Bool.and_eq_true_iff.mp (List.mem_filter.mp hb).2).2
    have hac := (Bool.and_eq_true_iff.mp (List.mem_filter.mp hc).2).1
    exact htrans b a c hba hac
  have hsublist := (List.sublist_mergeSort htrans htotal hsorted List.filter_sublist).filter
    fun b => le a b && le b a
  simp only [List.filter_filter, Bool.and_self] at hsublist
  exact (hsublist.eq_of_length ((List.mergeSort_perm l le).filter _).length_eq.symm).symm

/-- Elements of a sorted list that are level with each other come as they came before. -/
theorem pairwise_mergeSort_stable {R : α → α → Prop}
    (htrans : ∀ a b c, le a b = true → le b c = true → le a c = true)
    (htotal : ∀ a b, (le a b || le b a) = true) {l : List α} (hl : l.Pairwise R) :
    (l.mergeSort le).Pairwise fun a b => le a b = true ∧ (le b a = true → R a b) := by
  refine List.pairwise_of_forall_sublist fun {a b} hab => ?_
  have hle : le a b = true :=
    List.pairwise_iff_forall_sublist.mp (List.pairwise_mergeSort htrans htotal l) hab
  refine ⟨hle, fun hba => ?_⟩
  have haa : le a a = true := by simpa using htotal a a
  have hlevel : [a, b].Sublist (l.filter fun b => le a b && le b a) := by
    rw [← filter_mergeSort htrans htotal]
    simpa [haa, hle, hba] using hab.filter fun b => le a b && le b a
  exact List.pairwise_iff_forall_sublist.mp hl (hlevel.trans List.filter_sublist)

end Sorting

namespace Binary64

theorem descending_trans {x y z : Float} (hxy : descending x y = true)
    (hyz : descending y z = true) : descending x z = true := by
  simp only [descending, decide_eq_true_eq] at hxy hyz ⊢
  exact Int.le_trans hyz hxy

theorem descending_total (x y : Float) : (descending x y || descending y x) = true := by
  simp only [descending, Bool.or_eq_true, decide_eq_true_eq]
  exact Int.le_total _ _

end Binary64

/-! ## By importance -/

/-- That a chunk is offered before another: it is more important, or as important with the lesser
id. -/
def Precedes (a b : Chunk) : Prop :=
  Binary64.rank b.importance < Binary64.rank a.importance ∨
    Binary64.rank b.importance = Binary64.rank a.importance ∧ a.id < b.id

instance : DecidableRel Precedes := fun _ _ => inferInstanceAs (Decidable (_ ∨ _ ∧ _))

theorem Precedes.ne {a b : Chunk} (h : Precedes a b) : a ≠ b := by
  intro hab
  subst hab
  rcases h with h | ⟨-, h⟩
  · exact Int.lt_irrefl _ h
  · exact lt_irrefl _ h

theorem Precedes.asymm {a b : Chunk} (hab : Precedes a b) : ¬ Precedes b a := by
  intro hba
  rcases hab with hab | ⟨heq, hab⟩ <;> rcases hba with hba | ⟨heq', hba⟩
  · omega
  · omega
  · omega
  · exact lt_asymm hab hba

/-- There is one list of given chunks in this order. -/
theorem Precedes.eq_of_pairwise {cs ds : List Chunk} (hcs : cs.Pairwise Precedes)
    (hds : ds.Pairwise Precedes) (hmem : ∀ c, c ∈ cs ↔ c ∈ ds) : cs = ds := by
  refine List.Perm.eq_of_pairwise ?_ hcs hds
    ((List.perm_ext_iff_of_nodup (hcs.imp Precedes.ne) (hds.imp Precedes.ne)).mpr hmem)
  intro a b _ _ hab hba
  exact absurd hba hab.asymm

namespace Candidate

/-! ## Rounds -/

section Rounds

variable {α : Type}

theorem foldl_max_le_iff {ns : List Nat} {m k : Nat} :
    ns.foldl max m ≤ k ↔ m ≤ k ∧ ∀ n ∈ ns, n ≤ k := by
  induction ns generalizing m with
  | nil => simp
  | cons n ns ih => rw [List.foldl_cons, ih, Nat.max_le, List.forall_mem_cons, and_assoc]

theorem le_foldl_max (ns : List Nat) (m : Nat) :
    m ≤ ns.foldl max m ∧ ∀ n ∈ ns, n ≤ ns.foldl max m :=
  foldl_max_le_iff.mp (Nat.le_refl _)

/-- After so many rounds, as many elements of every queue have had their turn. -/
theorem rounds_perm (queues : List (List α)) (rounds : Nat) :
    ((List.range rounds).flatMap fun round => queues.filterMap (·[round]?)).Perm
      (queues.flatMap (·.take rounds)) := by
  induction rounds with
  | zero => simp
  | succ n ih =>
    have hturn : queues.filterMap (·[n]?) = queues.flatMap fun q => q[n]?.toList := by
      rw [List.filterMap_eq_flatMap_toList]
    have htake : (fun q : List α => q.take (n + 1)) = fun q => q.take n ++ q[n]?.toList :=
      funext fun q => List.take_add_one
    rw [List.range_succ, List.flatMap_append, List.flatMap_singleton, hturn, htake]
    exact (ih.append_right _).trans (List.flatMap_append_perm _ _ _)

theorem roundRobin_perm (queues : List (List α)) : (roundRobin queues).Perm queues.flatten := by
  refine (rounds_perm queues _).trans (List.Perm.of_eq ?_)
  rw [← List.flatMap_id']
  refine List.flatMap_congr fun q hq => ?_
  exact List.take_of_length_le ((le_foldl_max _ 0).2 _ (List.mem_map_of_mem hq))

end Rounds

/-! ## Queues -/

/-- Lists of the elements with each of several keys share out the elements with one of them. -/
theorem flatMap_filter_perm {α β : Type} [BEq β] [LawfulBEq β] (key : α → β) (l : List α)
    {ks : List β} (hks : ks.Nodup) :
    (ks.flatMap fun k => l.filter (key · == k)).Perm (l.filter (ks.contains <| key ·)) := by
  induction ks with
  | nil => simp
  | cons k ks ih =>
    obtain ⟨hk, hks⟩ := List.nodup_cons.mp hks
    have hthis : (l.filter ((k :: ks).contains <| key ·)).filter (key · == k)
        = l.filter (key · == k) := by
      rw [List.filter_filter]
      refine List.filter_congr fun a _ => ?_
      by_cases h : key a = k <;> simp [h]
    have hothers : (l.filter ((k :: ks).contains <| key ·)).filter (fun a => !(key a == k))
        = l.filter (ks.contains <| key ·) := by
      rw [List.filter_filter]
      refine List.filter_congr fun a _ => ?_
      by_cases h : key a = k <;> simp [h, hk]
    rw [List.flatMap_cons]
    refine ((ih hks).append_left _).trans ?_
    rw [← hthis, ← hothers]
    exact List.filter_append_perm _ _

theorem mem_directories {cs : List Candidate} {dir : String} :
    dir ∈ directories cs ↔ ∃ c ∈ cs, c.chunk.directory = dir := by
  unfold directories
  rw [Std.TreeSet.mem_toList, Std.TreeSet.mem_ofList]
  simp

theorem nodup_directories (cs : List Candidate) : (directories cs).Nodup :=
  Std.TreeSet.ordered_toList.imp fun {a b} hab heq => by subst b; simp at hab

theorem queues_flatten_perm (cs : List Candidate) : (queues cs).flatten.Perm cs := by
  unfold queues
  rw [← List.flatMap_def]
  refine (List.Perm.flatMap_left _ fun dir _ => List.mergeSort_perm _ _).trans ?_
  refine (flatMap_filter_perm (fun c : Candidate => c.chunk.directory) cs
    (nodup_directories cs)).trans (List.Perm.of_eq ?_)
  refine List.filter_eq_self.mpr fun c hc => ?_
  exact List.contains_iff_mem.mpr (mem_directories.mpr ⟨c, hc, rfl⟩)

/-! ## Orders -/

/-- A strategy neither loses nor repeats a candidate. -/
theorem order_perm (s : Strategy) (hasTask : Bool) (cs : List Candidate) :
    (order s hasTask cs).Perm cs := by
  cases s with
  | importanceFirst => exact List.mergeSort_perm _ _
  | relevanceFirst => exact List.mergeSort_perm _ _
  | breadthFirst => exact (roundRobin_perm _).trans (queues_flatten_perm cs)
  | depthFirst => exact List.mergeSort_perm _ _

/-- The order by importance never puts a lesser importance first. -/
theorem pairwise_order_importanceFirst (hasTask : Bool) (cs : List Candidate) :
    (order .importanceFirst hasTask cs).Pairwise fun a b =>
      Binary64.rank b.chunk.importance ≤ Binary64.rank a.chunk.importance := by
  refine (@List.pairwise_mergeSort _ byImportance (fun _ _ _ => Binary64.descending_trans)
    (fun _ _ => Binary64.descending_total _ _) cs).imp fun {a b} hab => ?_
  simpa only [byImportance, Binary64.descending, decide_eq_true_eq] using hab

end Candidate
end Dossier
