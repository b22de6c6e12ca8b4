import Dossier.Selection.Budget
import Mathlib.Algebra.Ring.Nat
import Mathlib.Data.List.Nodup

/-!
# Packing

What becomes of the chunks that are offered to a budget. An offer is judged against what is left at
its moment, so a statement about the end of a packing compares moments that lie apart. Three
invariants carry this over all offers:

* `Indexed` holds after any offers: the two sets of ids are those of the two lists;
* `Sound` says more of any offers: the tokens are counted exactly, nothing is packed or excluded
  twice, and every id that was offered has been decided;
* `Fair` holds as long as an id always comes with the same number of tokens. What is left only
  shrinks, so an excluded id stays too large, and with that every id is decided at its first offer.

`Offered` says once what an offer can lead to; the invariants are read off it.
-/

set_option autoImplicit false

namespace Dossier

/-! ## First occurrences -/

section FirstOccurrences

variable {α : Type} {l : List α} {a : α}

theorem nodup_append_singleton (hl : l.Nodup) (h : a ∉ l) : (l ++ [a]).Nodup := by
  rw [← List.concat_eq_append]
  exact hl.concat h

variable [BEq α] [LawfulBEq α]

theorem eraseDups_append_cons_of_mem (h : a ∈ l) (m : List α) :
    (l ++ a :: m).eraseDups = (l ++ m).eraseDups := by
  rw [List.eraseDups_append, List.eraseDups_append]
  simp [List.removeAll, h]

theorem eraseDups_append_of_mem (h : a ∈ l) : (l ++ [a]).eraseDups = l.eraseDups := by
  rw [eraseDups_append_cons_of_mem h, List.append_nil]

theorem eraseDups_append_of_notMem (h : a ∉ l) : (l ++ [a]).eraseDups = l.eraseDups ++ [a] := by
  rw [List.eraseDups_append]
  simp [List.removeAll, h, List.eraseDups_cons]

theorem eraseDups_eq_self (hl : l.Nodup) : l.eraseDups = l := by
  induction l with
  | nil => rfl
  | cons b l ih =>
    obtain ⟨hb, hl⟩ := List.nodup_cons.mp hl
    have hothers : (l.filter fun a => !a == b) = l := List.filter_eq_self.mpr fun a ha => by
      have hne : a ≠ b := fun h => hb (h ▸ ha)
      simp [hne]
    rw [List.eraseDups_cons, hothers, ih hl]

end FirstOccurrences

namespace Budget

@[simp] theorem ids_push (b : Budget) (c : Chunk) : (b.push c).ids = b.ids ++ [c.id] := by
  simp [ids, push]

@[simp] theorem toList_packed_push (b : Budget) (c : Chunk) :
    (b.push c).packed.toList = b.packed.toList ++ [c] := Array.toList_push

@[simp] theorem toList_excluded_exclude (b : Budget) (id : String) :
    (b.exclude id).excluded.toList = b.excluded.toList ++ [id] := Array.toList_push

/-! ## What an offer leads to -/

/-- That the ids to look up are those of the chunks packed, and those excluded. -/
structure Indexed (b : Budget) : Prop where
  contains_iff : ∀ id, b.contains id = true ↔ id ∈ b.ids
  excludedIds_iff : ∀ id, b.excludedIds.contains id = true ↔ id ∈ b.excluded.toList

theorem indexed_ofLimit (limit : UInt32) : (ofLimit limit).Indexed where
  contains_iff := by simp [ofLimit, contains, ids]
  excludedIds_iff := by simp [ofLimit]

theorem contains_insert_iff {t : Std.TreeSet String} {new id : String} :
    (t.insert new).contains id = true ↔ t.contains id = true ∨ id = new := by
  rw [Std.TreeSet.contains_iff_mem, Std.TreeSet.mem_insert, Std.LawfulEqCmp.compare_eq_iff_eq,
    Std.TreeSet.contains_iff_mem, or_comm, eq_comm]

theorem Indexed.push {b : Budget} (hb : b.Indexed) (c : Chunk) : (b.push c).Indexed where
  contains_iff id := by
    rw [ids_push, List.mem_append, List.mem_singleton, ← hb.contains_iff]
    exact contains_insert_iff
  excludedIds_iff := hb.excludedIds_iff

theorem Indexed.exclude {b : Budget} (hb : b.Indexed) (id : String) : (b.exclude id).Indexed where
  contains_iff := hb.contains_iff
  excludedIds_iff other := by
    rw [toList_excluded_exclude, List.mem_append, List.mem_singleton, ← hb.excludedIds_iff]
    exact contains_insert_iff

/-- What an offer can lead to: the budget after it, and whether the chunk was packed. -/
inductive Offered (b : Budget) (c : Chunk) : Budget → Bool → Prop where
  /-- A chunk of this id is packed already. -/
  | known (hid : c.id ∈ b.ids) : Offered b c b false
  | packed (hid : c.id ∉ b.ids) (hfits : c.tokens ≤ b.available) : Offered b c (b.push c) true
  /-- The chunk does not fit, and did not fit before. -/
  | refused (hid : c.id ∉ b.ids) (hlarge : b.available < c.tokens)
      (hknown : c.id ∈ b.excluded.toList) : Offered b c b false
  | excluded (hid : c.id ∉ b.ids) (hlarge : b.available < c.tokens)
      (hnew : c.id ∉ b.excluded.toList) : Offered b c (b.exclude c.id) false

/-- An offer leads to what `add` answers. -/
theorem Indexed.offered_add {b : Budget} (hb : b.Indexed) (c : Chunk) :
    Offered b c (b.add c).1 (b.add c).2 := by
  unfold add
  split
  · next hknown => exact .known ((hb.contains_iff _).mp hknown)
  · next hunknown =>
    have hid : c.id ∉ b.ids := fun h => hunknown ((hb.contains_iff _).mpr h)
    split
    · next hfits => exact .packed hid hfits
    · next hlarge =>
      have hlarge : b.available < c.tokens := UInt32.not_le.mp hlarge
      split
      · next hex => exact .refused hid hlarge ((hb.excludedIds_iff _).mp hex)
      · next hex => exact .excluded hid hlarge fun h => hex ((hb.excludedIds_iff _).mpr h)

theorem Offered.indexed {b b' : Budget} {c : Chunk} {p : Bool} (h : Offered b c b' p)
    (hb : b.Indexed) : b'.Indexed := by
  cases h with
  | known | refused => exact hb
  | packed => exact hb.push c
  | excluded => exact hb.exclude c.id

theorem Indexed.add {b : Budget} (hb : b.Indexed) (c : Chunk) : (b.add c).1.Indexed :=
  (hb.offered_add c).indexed hb

/-- What `pack` leaves is what the offers leave one after another. -/
theorem pack_fst (b : Budget) (cs : List Chunk) :
    (b.pack cs).1 = cs.foldl (fun b c => (b.add c).1) b := by
  suffices h : ∀ (n : Nat), (cs.foldl
      (fun (x : Budget × Nat) c => ((x.1.add c).1, if (x.1.add c).2 then x.2 + 1 else x.2)) (b, n)).1
      = cs.foldl (fun b c => (b.add c).1) b from h 0
  induction cs generalizing b with
  | nil => intro n; rfl
  | cons c cs ih =>
    intro n
    rw [List.foldl_cons, List.foldl_cons]
    exact ih _ _

theorem available_toNat {b : Budget} (h : b.used ≤ b.limit) :
    b.available.toNat = b.limit.toNat - b.used.toNat := by
  unfold available
  rw [UInt32.le_iff_toNat_le] at h
  split
  · next hle =>
    rw [UInt32.le_iff_toNat_le] at hle
    simp only [UInt32.toNat_zero]
    omega
  · exact UInt32.toNat_sub_of_le _ _ (UInt32.le_iff_toNat_le.mpr h)

theorem Offered.limit_eq {b b' : Budget} {c : Chunk} {p : Bool} (h : Offered b c b' p) :
    b'.limit = b.limit := by
  cases h <;> rfl

theorem Offered.mem_packed {b b' : Budget} {c d : Chunk} {p : Bool} (h : Offered b c b' p)
    (hd : d ∈ b'.packed.toList) : d ∈ b.packed.toList ∨ d = c := by
  cases h with
  | known | refused | excluded => exact .inl hd
  | packed =>
    rw [toList_packed_push, List.mem_append, List.mem_singleton] at hd
    exact hd

theorem Offered.packed_isPrefix {b b' : Budget} {c : Chunk} {p : Bool} (h : Offered b c b' p) :
    b.packed.toList <+: b'.packed.toList := by
  cases h with
  | known | refused | excluded => exact List.prefix_rfl
  | packed =>
    rw [toList_packed_push]
    exact List.prefix_append _ _

/-! ## What holds after any offers -/

/-- What holds of a budget to which chunks of these ids were offered, in this order. -/
structure Sound (offered : List String) (b : Budget) : Prop extends Indexed b where
  used_eq : b.used.toNat = (b.packed.toList.map (·.tokens.toNat)).sum
  used_le : b.used ≤ b.limit
  nodup_ids : b.ids.Nodup
  nodup_excluded : b.excluded.toList.Nodup
  /-- Every offer has been decided, and nothing else. -/
  decided : ∀ id, id ∈ b.ids ∨ id ∈ b.excluded.toList ↔ id ∈ offered

theorem sound_ofLimit (limit : UInt32) : Sound [] (ofLimit limit) where
  toIndexed := indexed_ofLimit limit
  used_eq := by simp [ofLimit]
  used_le := by simp [ofLimit, UInt32.le_iff_toNat_le]
  nodup_ids := by simp [ofLimit, ids]
  nodup_excluded := by simp [ofLimit]
  decided := by simp [ofLimit, ids]

/-- A chunk that fits is counted without a wrap. -/
theorem used_add_toNat {b : Budget} {c : Chunk} (hle : b.used ≤ b.limit)
    (hfits : c.tokens ≤ b.available) :
    (b.used + c.tokens).toNat = b.used.toNat + c.tokens.toNat ∧
      b.used.toNat + c.tokens.toNat ≤ b.limit.toNat := by
  have hav := available_toNat hle
  rw [UInt32.le_iff_toNat_le] at hle hfits
  have hlimit := b.limit.toNat_lt
  have hsum : b.used.toNat + c.tokens.toNat ≤ b.limit.toNat := by omega
  refine ⟨?_, hsum⟩
  rw [UInt32.toNat_add]
  exact Nat.mod_eq_of_lt (by omega)

/-- A chunk that fits leaves the tokens that were used within the limit. -/
theorem used_push_le {b : Budget} {c : Chunk} (hle : b.used ≤ b.limit)
    (hfits : c.tokens ≤ b.available) : (b.push c).used ≤ (b.push c).limit := by
  obtain ⟨hsum, hlimit⟩ := used_add_toNat hle hfits
  rw [UInt32.le_iff_toNat_le]
  exact Nat.le_trans (Nat.le_of_eq hsum) hlimit

theorem available_push_toNat {b : Budget} {c : Chunk} (hle : b.used ≤ b.limit)
    (hfits : c.tokens ≤ b.available) :
    (b.push c).available.toNat = b.available.toNat - c.tokens.toNat := by
  obtain ⟨hsum, -⟩ := used_add_toNat hle hfits
  rw [available_toNat (used_push_le hle hfits), available_toNat hle]
  show b.limit.toNat - (b.used + c.tokens).toNat = _
  rw [hsum, Nat.sub_add_eq]

theorem Sound.step {offered : List String} {b b' : Budget} {c : Chunk} {p : Bool}
    (hs : Sound offered b) (h : Offered b c b' p) : Sound (offered ++ [c.id]) b' := by
  have hdecided := hs.decided
  have hindexed := h.indexed hs.toIndexed
  cases h with
  | known hid =>
    refine { hs with decided := fun id => ?_ }
    rw [hdecided, List.mem_append, List.mem_singleton]
    exact ⟨Or.inl, fun h => h.elim (fun h => h) fun h => h ▸ (hdecided _).mp (.inl hid)⟩
  | packed hid hfits =>
    refine ⟨hindexed, ?_, used_push_le hs.used_le hfits, ?_, hs.nodup_excluded, fun id => ?_⟩
    · refine (used_add_toNat hs.used_le hfits).1.trans ?_
      rw [hs.used_eq, toList_packed_push, List.map_append, List.sum_append]
      simp
    · rw [ids_push]
      exact nodup_append_singleton hs.nodup_ids hid
    · have hold := hdecided id
      rw [ids_push, List.mem_append, List.mem_append, List.mem_singleton, ← hold]
      exact or_right_comm
  | refused hid hlarge hknown =>
    refine { hs with decided := fun id => ?_ }
    rw [hdecided, List.mem_append, List.mem_singleton]
    exact ⟨Or.inl, fun h => h.elim (fun h => h) fun h => h ▸ (hdecided _).mp (.inr hknown)⟩
  | excluded hid hlarge hnew =>
    refine ⟨hindexed, hs.used_eq, hs.used_le, hs.nodup_ids, ?_, fun id => ?_⟩
    · rw [toList_excluded_exclude]
      exact nodup_append_singleton hs.nodup_excluded hnew
    · have hold := hdecided id
      rw [toList_excluded_exclude, List.mem_append, List.mem_append, List.mem_singleton, ← hold, or_assoc]
      rfl

/-! ## What holds when an id keeps its number of tokens -/

/--
What holds of a budget to which chunks of these ids were offered, in this order, each id with the
tokens that `weight` gives it.
-/
structure Fair (weight : String → UInt32) (offered : List String) (b : Budget) : Prop where
  /-- What was excluded would still not fit. -/
  too_large : ∀ id ∈ b.excluded.toList, b.available < weight id
  disjoint : ∀ id ∈ b.excluded.toList, id ∉ b.ids
  /-- What is packed was packed at its first offer. -/
  ids_eq : b.ids = offered.eraseDups.filter fun id => id ∈ b.ids
  /-- What is packed and no lighter than something excluded came before it. -/
  before : ∀ x ∈ b.excluded.toList, ∀ y ∈ b.ids, weight x ≤ weight y →
    [y, x].Sublist offered.eraseDups

theorem fair_ofLimit (weight : String → UInt32) (limit : UInt32) :
    Fair weight [] (ofLimit limit) where
  too_large := by simp [ofLimit]
  disjoint := by simp [ofLimit]
  ids_eq := by simp [ofLimit, ids]
  before := by simp [ofLimit]

/-- An offer of an id that was offered before leaves the order of first offers as it is. -/
theorem Fair.again {weight : String → UInt32} {offered : List String} {b : Budget} {id : String}
    (hf : Fair weight offered b) (h : id ∈ offered) : Fair weight (offered ++ [id]) b where
  too_large := hf.too_large
  disjoint := hf.disjoint
  ids_eq := by
    rw [eraseDups_append_of_mem h]
    exact hf.ids_eq
  before := by
    rw [eraseDups_append_of_mem h]
    exact hf.before

theorem Fair.step {weight : String → UInt32} {offered : List String} {b b' : Budget} {c : Chunk}
    {p : Bool} (hs : Sound offered b) (hf : Fair weight offered b) (hw : c.tokens = weight c.id)
    (h : Offered b c b' p) : Fair weight (offered ++ [c.id]) b' := by
  cases h with
  | known hid => exact hf.again ((hs.decided _).mp (.inl hid))
  | refused hid hlarge hknown => exact hf.again ((hs.decided _).mp (.inr hknown))
  | packed hid hfits =>
    -- An excluded id would be too large, so this is the first offer of the id.
    have hnew : c.id ∉ b.excluded.toList := fun hex =>
      absurd (hw ▸ hf.too_large _ hex) (UInt32.not_lt.mpr hfits)
    have hfirst : c.id ∉ offered := fun h => ((hs.decided _).mpr h).elim hid hnew
    have hroom := available_push_toNat hs.used_le hfits
    refine ⟨fun id hex => ?_, fun id hex hmem => ?_, ?_, fun x hx y hy hxy => ?_⟩
    · have hold := hf.too_large id hex
      rw [UInt32.lt_iff_toNat_lt] at hold ⊢
      omega
    · rw [ids_push, List.mem_append, List.mem_singleton] at hmem
      exact hmem.elim (hf.disjoint id hex) fun h => hnew (h ▸ hex)
    · rw [eraseDups_append_of_notMem hfirst, List.filter_append, ids_push]
      have hlast : [c.id].filter (fun id => id ∈ b.ids ++ [c.id]) = [c.id] := by simp
      rw [hlast, List.append_left_inj]
      conv_lhs => rw [hf.ids_eq]
      refine List.filter_congr fun id hmem => ?_
      have hne : id ≠ c.id := fun h => hfirst (h ▸ List.mem_eraseDups.mp hmem)
      simp [hne]
    · rw [eraseDups_append_of_notMem hfirst]
      rw [ids_push, List.mem_append, List.mem_singleton] at hy
      rcases hy with hy | rfl
      · exact (hf.before x hx y hy hxy).trans (List.sublist_append_left _ _)
      · have hlarge := hf.too_large x hx
        rw [hw] at hfits
        exact absurd (UInt32.lt_of_lt_of_le hlarge hxy) (UInt32.not_lt.mpr hfits)
  | excluded hid hlarge hnew =>
    have hfirst : c.id ∉ offered := fun h => ((hs.decided _).mpr h).elim hid hnew
    refine ⟨fun id hex => ?_, fun id hex hmem => ?_, ?_, fun x hx y hy hxy => ?_⟩
    · rw [toList_excluded_exclude, List.mem_append, List.mem_singleton] at hex
      rcases hex with hex | rfl
      · exact hf.too_large id hex
      · exact hw ▸ hlarge
    · rw [toList_excluded_exclude, List.mem_append, List.mem_singleton] at hex
      exact hex.elim (fun h => hf.disjoint id h hmem) fun h => hid (h ▸ hmem)
    · have hlast : [c.id].filter (fun id => id ∈ b.ids) = [] := by simp [hid]
      show b.ids = (offered ++ [c.id]).eraseDups.filter fun id => id ∈ b.ids
      rw [eraseDups_append_of_notMem hfirst, List.filter_append, hlast, List.append_nil]
      exact hf.ids_eq
    · rw [eraseDups_append_of_notMem hfirst]
      rw [toList_excluded_exclude, List.mem_append, List.mem_singleton] at hx
      rcases hx with hx | rfl
      · exact (hf.before x hx y hy hxy).trans (List.sublist_append_left _ _)
      · have hy : y ∈ offered.eraseDups := List.mem_eraseDups.mpr ((hs.decided y).mp (.inl hy))
        exact (List.singleton_sublist.mpr hy).append (List.Sublist.refl [c.id])

/-! ## Whole packings -/

theorem sound_foldl (cs : List Chunk) {offered : List String} {b : Budget} (hs : Sound offered b) :
    Sound (offered ++ cs.map (·.id)) (cs.foldl (fun b c => (b.add c).1) b) := by
  induction cs generalizing offered b with
  | nil => simpa using hs
  | cons c cs ih =>
    have hnext := ih (hs.step (hs.offered_add c))
    rwa [List.append_assoc] at hnext

theorem fair_foldl {weight : String → UInt32} (cs : List Chunk)
    (hw : ∀ c ∈ cs, c.tokens = weight c.id) {offered : List String} {b : Budget}
    (hs : Sound offered b) (hf : Fair weight offered b) :
    Fair weight (offered ++ cs.map (·.id)) (cs.foldl (fun b c => (b.add c).1) b) := by
  induction cs generalizing offered b with
  | nil => simpa using hf
  | cons c cs ih =>
    obtain ⟨hc, hcs⟩ := List.forall_mem_cons.mp hw
    have hnext := ih hcs (hs.step (hs.offered_add c)) (hf.step hs hc (hs.offered_add c))
    rwa [List.append_assoc] at hnext

theorem limit_foldl (cs : List Chunk) {b : Budget} (hb : b.Indexed) :
    (cs.foldl (fun b c => (b.add c).1) b).limit = b.limit := by
  induction cs generalizing b with
  | nil => rfl
  | cons c cs ih => exact (ih (hb.add c)).trans (hb.offered_add c).limit_eq

theorem mem_packed_foldl (cs : List Chunk) {b : Budget} (hb : b.Indexed) {d : Chunk}
    (hd : d ∈ (cs.foldl (fun b c => (b.add c).1) b).packed.toList) :
    d ∈ b.packed.toList ∨ d ∈ cs := by
  induction cs generalizing b with
  | nil => exact .inl hd
  | cons c cs ih =>
    rcases ih (hb.add c) hd with hd | hd
    · rcases (hb.offered_add c).mem_packed hd with hd | rfl
      · exact .inl hd
      · exact .inr List.mem_cons_self
    · exact .inr (List.mem_cons_of_mem _ hd)

/-- What is packed stays in front of what is packed later. -/
theorem packed_isPrefix_foldl (cs : List Chunk) {b : Budget} (hb : b.Indexed) :
    b.packed.toList <+: (cs.foldl (fun b c => (b.add c).1) b).packed.toList := by
  induction cs generalizing b with
  | nil => exact List.prefix_rfl
  | cons c cs ih => exact (hb.offered_add c).packed_isPrefix.trans (ih (hb.add c))

theorem sound_pack (limit : UInt32) (cs : List Chunk) :
    Sound (cs.map (·.id)) ((ofLimit limit).pack cs).1 := by
  rw [pack_fst]
  exact sound_foldl cs (sound_ofLimit limit)

theorem fair_pack {weight : String → UInt32} (limit : UInt32) {cs : List Chunk}
    (hw : ∀ c ∈ cs, c.tokens = weight c.id) :
    Fair weight (cs.map (·.id)) ((ofLimit limit).pack cs).1 := by
  rw [pack_fst]
  exact fair_foldl cs hw (sound_ofLimit limit) (fair_ofLimit weight limit)

theorem limit_pack (limit : UInt32) (cs : List Chunk) :
    ((ofLimit limit).pack cs).1.limit = limit := by
  rw [pack_fst]
  exact limit_foldl cs (indexed_ofLimit limit)

/-- Only chunks that were offered are packed. -/
theorem mem_packed_pack {limit : UInt32} {cs : List Chunk} {c : Chunk}
    (hc : c ∈ ((ofLimit limit).pack cs).1.packed.toList) : c ∈ cs := by
  rw [pack_fst] at hc
  exact (mem_packed_foldl cs (indexed_ofLimit limit) hc).resolve_left (by simp [ofLimit])

/-- A first offer that fits the limit is packed first. -/
theorem isPrefix_pack_cons (limit : UInt32) {c : Chunk} (cs : List Chunk) (h : c.tokens ≤ limit) :
    [c] <+: ((ofLimit limit).pack (c :: cs)).1.packed.toList := by
  have hfits : c.tokens ≤ (ofLimit limit).available := by
    rw [UInt32.le_iff_toNat_le] at h ⊢
    rw [available_toNat (by simp [ofLimit, UInt32.le_iff_toNat_le])]
    exact h
  have hadd : ((ofLimit limit).add c).1.packed.toList = [c] := by
    unfold add
    rw [if_neg (by simp [ofLimit, contains]), if_pos hfits]
    rfl
  rw [pack_fst, List.foldl_cons, ← hadd]
  exact packed_isPrefix_foldl cs ((indexed_ofLimit limit).add c)

end Budget
end Dossier
