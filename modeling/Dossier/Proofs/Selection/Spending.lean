import Dossier.Proofs.Selection.Packing

/-!
# Budgets under any calls

A budget may be asked to add single chunks and to pack whole lists, in any order, and an id may come
back with other tokens than before: an id that did not fit can be packed later, and then stands on
both sides. `Consistent` says what holds all the same after any calls, and what the next call will
do. All calls together are one sequence of offers (`ofCalls_eq`), so the invariants of packing hold;
what is excluded is read off the offers that failed, each at its moment (`failures`).
-/

set_option autoImplicit false

namespace Dossier.Budget

/-! ## Calls -/

/-- What a budget can be asked to do. -/
inductive Call where
  | add (c : Chunk)
  | pack (cs : List Chunk)

def Call.offers : Call → List Chunk
  | .add c => [c]
  | .pack cs => cs

def after (b : Budget) : Call → Budget
  | .add c => (b.add c).1
  | .pack cs => (b.pack cs).1

/-- The budget after calls to one that was empty. -/
def ofCalls (limit : UInt32) (calls : List Call) : Budget := calls.foldl after (ofLimit limit)

/-- The chunks that calls offer, in order. -/
def offersOf (calls : List Call) : List Chunk := calls.flatMap Call.offers

theorem after_eq (b : Budget) (call : Call) :
    b.after call = call.offers.foldl (fun b c => (b.add c).1) b := by
  cases call with
  | add c => rfl
  | pack cs => exact pack_fst b cs

theorem foldl_after (calls : List Call) (b : Budget) :
    calls.foldl after b = (offersOf calls).foldl (fun b c => (b.add c).1) b := by
  induction calls generalizing b with
  | nil => rfl
  | cons call calls ih =>
    unfold offersOf at ih ⊢
    rw [List.foldl_cons, List.flatMap_cons, List.foldl_append, ih, after_eq]

/-- **Calls are one sequence of offers.** -/
theorem ofCalls_eq (limit : UInt32) (calls : List Call) :
    ofCalls limit calls = (offersOf calls).foldl (fun b c => (b.add c).1) (ofLimit limit) :=
  foldl_after calls _

theorem sound_ofCalls (limit : UInt32) (calls : List Call) :
    Sound ((offersOf calls).map (·.id)) (ofCalls limit calls) := by
  rw [ofCalls_eq]
  exact sound_foldl (offersOf calls) (sound_ofLimit limit)

theorem limit_ofCalls (limit : UInt32) (calls : List Call) :
    (ofCalls limit calls).limit = limit := by
  rw [ofCalls_eq]
  exact limit_foldl _ (indexed_ofLimit limit)

/-! ## Single offers -/

theorem Offered.packed_iff {b b' : Budget} {c : Chunk} {p : Bool} (h : Offered b c b' p) :
    p = true ↔ c.id ∉ b.ids ∧ c.tokens ≤ b.available := by
  cases h with
  | known hid => simp [hid]
  | packed hid hfits => simp [hid, hfits]
  | refused hid hlarge _ | excluded hid hlarge _ => simp [hid, hlarge]

/-- A packed chunk is put behind the others. -/
theorem Offered.packed_eq {b b' : Budget} {c : Chunk} (h : Offered b c b' true) :
    b'.packed.toList = b.packed.toList ++ [c] := by
  cases h
  exact toList_packed_push b c

/-- An offer that is not packed spends nothing. -/
theorem Offered.unspent {b b' : Budget} {c : Chunk} (h : Offered b c b' false) :
    b'.used = b.used ∧ b'.available = b.available ∧ b'.packed = b.packed := by
  cases h <;> exact ⟨rfl, rfl, rfl⟩

theorem Offered.size_eq {b b' : Budget} {c : Chunk} {p : Bool} (h : Offered b c b' p) :
    b'.packed.size = b.packed.size + if p then 1 else 0 := by
  cases p with
  | true =>
    rw [← Array.length_toList, h.packed_eq, List.length_append, Array.length_toList]
    rfl
  | false =>
    rw [h.unspent.2.2]
    rfl

/-- One more offer, with the number of offers that were packed so far. -/
def countOffer (x : Budget × Nat) (c : Chunk) : Budget × Nat :=
  ((x.1.add c).1, if (x.1.add c).2 then x.2 + 1 else x.2)

theorem size_foldl_countOffer (cs : List Chunk) {x : Budget × Nat} (hx : x.1.Indexed) :
    (cs.foldl countOffer x).1.packed.size + x.2 =
      x.1.packed.size + (cs.foldl countOffer x).2 := by
  induction cs generalizing x with
  | nil => rfl
  | cons c cs ih =>
    have hsize : (countOffer x c).1.packed.size + x.2 = x.1.packed.size + (countOffer x c).2 := by
      unfold countOffer
      rw [(hx.offered_add c).size_eq]
      cases (x.1.add c).2 with
      | true => exact Nat.add_right_comm _ 1 _
      | false => rfl
    have hrest := ih (x := countOffer x c) (hx.add c)
    rw [List.foldl_cons]
    omega

theorem Indexed.size_pack {b : Budget} (hb : b.Indexed) (cs : List Chunk) :
    (b.pack cs).1.packed.size = b.packed.size + (b.pack cs).2 :=
  size_foldl_countOffer cs (x := (b, 0)) hb

/-! ## What is excluded -/

/-- The ids of the chunks that fail to fit when they are offered one after another, in order. A chunk
fails when none of its id is packed and its tokens are more than what is left at that moment. -/
def failures : Budget → List Chunk → List String
  | _, [] => []
  | b, c :: cs =>
    if c.id ∉ b.ids ∧ b.available < c.tokens then c.id :: failures (b.add c).1 cs
    else failures (b.add c).1 cs

/-- **What is excluded are the failures, each where it failed first.** -/
theorem excluded_foldl (cs : List Chunk) {b : Budget} (hb : b.Indexed)
    (hnodup : b.excluded.toList.Nodup) :
    (cs.foldl (fun b c => (b.add c).1) b).excluded.toList =
      (b.excluded.toList ++ failures b cs).eraseDups := by
  induction cs generalizing b with
  | nil => rw [List.foldl_nil, failures, List.append_nil, eraseDups_eq_self hnodup]
  | cons c cs ih =>
    have hadd := hb.offered_add c
    have hnext := hb.add c
    rw [List.foldl_cons, failures]
    generalize (b.add c).1 = b' at hadd hnext ⊢
    generalize (b.add c).2 = p at hadd
    cases hadd with
    | known hid =>
      rw [ih hb hnodup, if_neg fun h => h.1 hid]
    | packed hid hfits =>
      rw [ih hnext hnodup, if_neg fun h => UInt32.not_lt.mpr hfits h.2]
      rfl
    | refused hid hlarge hknown =>
      -- The id is counted among the failures once more, but not for the first time.
      rw [ih hb hnodup, if_pos ⟨hid, hlarge⟩, eraseDups_append_cons_of_mem hknown]
    | excluded hid hlarge hnew =>
      have hnodup' : (b.exclude c.id).excluded.toList.Nodup := by
        rw [toList_excluded_exclude]
        exact nodup_append_singleton hnodup hnew
      rw [ih hnext hnodup', if_pos ⟨hid, hlarge⟩, toList_excluded_exclude, List.append_assoc]
      rfl

theorem excluded_ofCalls (limit : UInt32) (calls : List Call) :
    (ofCalls limit calls).excluded.toList =
      (failures (ofLimit limit) (offersOf calls)).eraseDups := by
  rw [ofCalls_eq]
  exact excluded_foldl _ (indexed_ofLimit limit) List.nodup_nil

/-! ## After any calls -/

/-- What holds of a budget after any calls, and of what it answers next. -/
structure Consistent (limit : UInt32) (calls : List Call) (b : Budget) : Prop where
  limit_eq : b.limit = limit
  /-- The tokens that were used are those of the packed chunks, with no wrap. -/
  used_eq : b.used.toNat = (b.packed.toList.map (·.tokens.toNat)).sum
  balance : b.used.toNat + b.available.toNat = limit.toNat
  nodup_ids : b.ids.Nodup
  contains_iff : ∀ id, b.contains id = true ↔ id ∈ b.ids
  nodup_excluded : b.excluded.toList.Nodup
  /-- Ids are excluded in the order in which they first failed to fit. -/
  excluded_eq : b.excluded.toList = (failures (ofLimit limit) (offersOf calls)).eraseDups
  /-- Just what was offered is packed or excluded. -/
  decided : ∀ id, id ∈ b.ids ∨ id ∈ b.excluded.toList ↔ ∃ c ∈ offersOf calls, c.id = id
  add_iff : ∀ c, (b.add c).2 = true ↔ c.id ∉ b.ids ∧ c.tokens ≤ b.available
  add_packed : ∀ c, (b.add c).2 = true → (b.add c).1.packed.toList = b.packed.toList ++ [c]
  add_unspent : ∀ c, (b.add c).2 = false → (b.add c).1.used = b.used ∧
    (b.add c).1.available = b.available ∧ (b.add c).1.packed = b.packed
  /-- `pack` answers by how much the packed chunks have become more. -/
  pack_counts : ∀ cs, (b.pack cs).1.packed.size = b.packed.size + (b.pack cs).2
  /-- Later calls put chunks behind those that are packed. -/
  grows : ∀ more, b.packed.toList <+: (ofCalls limit (calls ++ more)).packed.toList

/-- **A budget is consistent after any calls.** -/
theorem ofCalls_consistent (limit : UInt32) (calls : List Call) :
    Consistent limit calls (ofCalls limit calls) := by
  have hsound := sound_ofCalls limit calls
  have hindexed := hsound.toIndexed
  have hlimit := limit_ofCalls limit calls
  refine
    { limit_eq := hlimit
      used_eq := hsound.used_eq
      balance := ?_
      nodup_ids := hsound.nodup_ids
      contains_iff := hsound.contains_iff
      nodup_excluded := hsound.nodup_excluded
      excluded_eq := excluded_ofCalls limit calls
      decided := fun id => ?_
      add_iff := fun c => (hindexed.offered_add c).packed_iff
      add_packed := fun c hp => ?_
      add_unspent := fun c hp => ?_
      pack_counts := hindexed.size_pack
      grows := fun more => ?_ }
  · have hle := UInt32.le_iff_toNat_le.mp hsound.used_le
    rw [available_toNat hsound.used_le]
    rw [hlimit] at hle ⊢
    exact Nat.add_sub_of_le hle
  · rw [hsound.decided, List.mem_map]
  · exact (hp ▸ hindexed.offered_add c : Offered _ c _ true).packed_eq
  · exact (hp ▸ hindexed.offered_add c : Offered _ c _ false).unspent
  · have hmore : ofCalls limit (calls ++ more) =
        (offersOf more).foldl (fun b c => (b.add c).1) (ofCalls limit calls) := by
      rw [← foldl_after]
      exact List.foldl_append
    rw [hmore]
    exact packed_isPrefix_foldl _ hindexed

/-- An id that did not fit is packed when it comes back with fewer tokens, and stays excluded. -/
example :
    let b := ofCalls 10 [.add { (default : Chunk) with id := "a", tokens := 20 },
      .add { (default : Chunk) with id := "a", tokens := 5 }]
    b.ids = ["a"] ∧ b.excluded = #["a"] := by decide

end Dossier.Budget
