import Dossier.Proofs.Cache.Expiring
import Mathlib.Data.List.Induction
import Mathlib.Data.List.Nodup
import Mathlib.Tactic.MkIffOfInductiveProp

/-!
# The answers of a cache by its history

A cache keeps expired values until someone asks for them, so what lies in it is not what it gives
out. Both are decided by the calls that were made: `Latest` is the latest value stored under a key,
with the calls since then, and `Held` says that none of these has taken it away. That what is stored
is what the calls hold (`stored?_ofCalls`) is kept by every call, whatever the clock does. While the
clock does not run backwards, a value that is given out cannot have been evicted, and so every
answer is read off the history.

A call to store a value whose expiry the clock cannot show ends the calls (`ofCalls?`). Only calls
that are all timely lead to a cache, and to the same one as on a clock that can show every moment
(`ofCalls?_eq_some_iff`). So the answers are those of the history whenever there are any
(`ofCalls_historical`), and there are none after a late call (`not_every_run_historical`).
-/

set_option autoImplicit false

namespace Dossier

/-- A list with one more element is split at that element or before it. -/
theorem snoc_eq_append_cons {α : Type} {front back past : List α} {x y : α} :
    past ++ [x] = front ++ y :: back ↔
      (back = [] ∧ past = front ∧ x = y) ∨
        ∃ rest, back = rest ++ [x] ∧ past = front ++ y :: rest := by
  constructor
  · intro h
    rcases List.eq_nil_or_concat back with rfl | ⟨rest, z, rfl⟩
    · obtain ⟨hpast, hx⟩ := List.append_inj' h rfl
      exact .inl ⟨rfl, hpast, List.singleton_inj.mp hx⟩
    · rw [List.concat_eq_append, ← List.cons_append, ← List.append_assoc] at h
      obtain ⟨hpast, hx⟩ := List.append_inj' h rfl
      rw [List.singleton_inj.mp hx]
      exact .inr ⟨rest, List.concat_eq_append, hpast⟩
  · intro h
    rcases h with ⟨rfl, rfl, rfl⟩ | ⟨rest, rfl, rfl⟩
    · rfl
    · simp

namespace ExpiringCache

/-! ## Calls -/

/-- What a cache can be asked to do. -/
inductive Operation (α β : Type) where
  | insert (key : α) (value : β)
  | get (key : α)
  | invalidate (key : α)
  | clear

/-- An operation at the moment that the clock shows. -/
structure Call (α β : Type) where
  now : Nat
  operation : Operation α β

namespace Call

variable {α β : Type}

/-- That a call stores a value under a key. -/
def Stores (key : α) (value : β) (x : Call α β) : Prop := x.operation = .insert key value

/-- That the clock can show the moment at which what a call stores expires. -/
def Timely (ttl : Nat) (x : Call α β) : Prop :=
  ∀ key value, x.Stores key value → Clock.Shows (x.now + ttl)

/-- That a call drops what is under a key, expired or not. -/
def Drops (key : α) (x : Call α β) : Prop :=
  x.operation = .invalidate key ∨ x.operation = .clear

/-- That a call asks for what is under a key, at a moment when what expires at `expires` has. -/
@[mk_iff] structure Evicts (key : α) (expires : Nat) (x : Call α β) : Prop where
  gets : x.operation = .get key
  expired : expires ≤ x.now

/-- Whether a call has to do with a key. -/
def concerns [DecidableEq α] (key : α) (x : Call α β) : Bool :=
  match x.operation with
  | .insert k _ | .get k | .invalidate k => k = key
  | .clear => true

end Call

variable {α β : Type} [DecidableEq α]

/-- The cache after a call; none if it cannot store what it should. -/
def after? (c : ExpiringCache α β) (x : Call α β) : Option (ExpiringCache α β) :=
  match x.operation with
  | .insert key value => c.insert? x.now key value
  | .get key => some (c.get x.now key).2
  | .invalidate key => some (c.invalidate key).2
  | .clear => some c.clear

/-- The cache after calls, if all of them can be made. -/
def afterAll? (c : ExpiringCache α β) (calls : List (Call α β)) : Option (ExpiringCache α β) :=
  calls.foldlM after? c

/-- The cache after calls to one that was empty, if all of them can be made. -/
def ofCalls? (ttl : Nat) (calls : List (Call α β)) : Option (ExpiringCache α β) :=
  (⟨ttl, []⟩ : ExpiringCache α β).afterAll? calls

/-! ## On a clock that can show every moment -/

/-- What `after?` leads to, when the clock can show every moment. -/
def after (c : ExpiringCache α β) (x : Call α β) : ExpiringCache α β :=
  match x.operation with
  | .insert key value => c.put x.now key value
  | .get key => (c.get x.now key).2
  | .invalidate key => (c.invalidate key).2
  | .clear => c.clear

def afterAll (c : ExpiringCache α β) (calls : List (Call α β)) : ExpiringCache α β :=
  calls.foldl after c

def ofCalls (ttl : Nat) (calls : List (Call α β)) : ExpiringCache α β :=
  (⟨ttl, []⟩ : ExpiringCache α β).afterAll calls

theorem afterAll_snoc (c : ExpiringCache α β) (calls : List (Call α β)) (x : Call α β) :
    c.afterAll (calls ++ [x]) = (c.afterAll calls).after x := List.foldl_append

theorem ofCalls_snoc (ttl : Nat) (calls : List (Call α β)) (x : Call α β) :
    ofCalls ttl (calls ++ [x]) = (ofCalls ttl calls).after x := afterAll_snoc _ _ _

/-! ## What a call does to one key -/

/-- What is under a key after a call, from what was there before. -/
def slot (ttl : Nat) (key : α) (x : Call α β) (before : Option (Stored β)) : Option (Stored β) :=
  match x.operation with
  | .insert k value => if k = key then some ⟨value, x.now + ttl⟩ else before
  | .get k => if k = key then before.filter fun s => x.now < s.expires else before
  | .invalidate k => if k = key then none else before
  | .clear => none

theorem stored?_of_get {c : ExpiringCache α β} {now : Nat} {key k : α} {s : Stored β}
    (h : (c.get now key).2.stored? k = some s) : c.stored? k = some s := by
  rw [stored?_get] at h
  split at h
  · exact (Option.filter_eq_some_iff.mp h).1
  · exact h

theorem ttl_after (c : ExpiringCache α β) (x : Call α β) : (c.after x).ttl = c.ttl := by
  unfold after
  cases x.operation with
  | get key => exact c.ttl_get _ _
  | insert | invalidate | clear => rfl

/-- A call can be made when it is timely, and then it does what it would on any clock. -/
theorem after?_eq_some {c d : ExpiringCache α β} {x : Call α β} :
    c.after? x = some d ↔ x.Timely c.ttl ∧ c.after x = d := by
  obtain ⟨now, operation⟩ := x
  cases operation with
  | insert key value =>
    have htimely : (⟨now, .insert key value⟩ : Call α β).Timely c.ttl ↔ Clock.Shows (now + c.ttl) :=
      ⟨fun h => h key value rfl, fun h _ _ _ => h⟩
    rw [htimely]
    simp [after?, after, insert?]
  | get | invalidate | clear => simp [after?, after, Call.Timely, Call.Stores]

/-- **A call does to each key what it does to the key alone.** -/
theorem stored?_after (c : ExpiringCache α β) (x : Call α β) (key : α) :
    (c.after x).stored? key = slot c.ttl key x (c.stored? key) := by
  unfold after slot
  cases x.operation with
  | insert k value => simp only [stored?_put, eq_comm (a := key)]
  | get k => simp only [stored?_get, eq_comm (a := key)]
  | invalidate k =>
    show (c.erase k).stored? key = _
    simp only [stored?_erase, eq_comm (a := key)]
  | clear => rfl

/-- What is under a key after a call is what the call stores, or was there and was not taken. -/
theorem slot_eq_some {ttl : Nat} {key : α} {x : Call α β} {before : Option (Stored β)}
    {s : Stored β} : slot ttl key x before = some s ↔
      (x.Stores key s.value ∧ s.expires = x.now + ttl) ∨
        (before = some s ∧ (∀ other, ¬ x.Stores key other) ∧ ¬ x.Drops key ∧
          ¬ x.Evicts key s.expires) := by
  obtain ⟨value, expires⟩ := s
  obtain ⟨now, operation⟩ := x
  cases operation with
  | insert k other =>
    by_cases hk : k = key
    · simp [slot, Call.Stores, hk, eq_comm (a := expires)]
    · simp [slot, Call.Stores, Call.Drops, Call.evicts_iff, hk]
  | get k =>
    by_cases hk : k = key
    · simp [slot, Call.Stores, Call.Drops, Call.evicts_iff, Option.filter_eq_some_iff, hk]
    · simp [slot, Call.Stores, Call.Drops, Call.evicts_iff, hk]
  | invalidate k =>
    by_cases hk : k = key <;> simp [slot, Call.Stores, Call.Drops, Call.evicts_iff, hk]
  | clear => simp [slot, Call.Stores, Call.Drops]

/-! ## What the calls hold -/

/-- That a value is the latest stored under a key, at the moment `stored`, with the calls since. -/
structure Latest (past : List (Call α β)) (key : α) (value : β) (stored : Nat)
    (since : List (Call α β)) : Prop where
  stores : ∃ earlier x, past = earlier ++ x :: since ∧ x.Stores key value ∧ x.now = stored
  last : ∀ x ∈ since, ∀ other, ¬ x.Stores key other

/-- That the latest value under a key is still there, expired or not. -/
structure Held (ttl : Nat) (past : List (Call α β)) (key : α) (value : β) (stored : Nat)
    (since : List (Call α β)) : Prop where
  latest : Latest past key value stored since
  undropped : ∀ x ∈ since, ¬ x.Drops key
  unevicted : ∀ x ∈ since, ¬ x.Evicts key (stored + ttl)

variable {ttl : Nat} {past since : List (Call α β)} {key : α} {value : β} {stored : Nat}
  {x : Call α β}

omit [DecidableEq α] in
theorem not_held_nil : ¬ Held ttl ([] : List (Call α β)) key value stored since := by
  intro h
  obtain ⟨earlier, x, hsplit, -⟩ := h.latest.stores
  cases earlier <;> cases hsplit

omit [DecidableEq α] in
/-- What is held after one more call is stored by it, or was held and is not taken by it. -/
theorem held_snoc : Held ttl (past ++ [x]) key value stored since ↔
    (since = [] ∧ x.Stores key value ∧ x.now = stored) ∨
      ∃ rest, since = rest ++ [x] ∧ Held ttl past key value stored rest ∧
        (∀ other, ¬ x.Stores key other) ∧ ¬ x.Drops key ∧ ¬ x.Evicts key (stored + ttl) := by
  constructor
  · intro h
    obtain ⟨⟨⟨earlier, y, hsplit, hy⟩, hlast⟩, hdrop, hevict⟩ := h
    rcases snoc_eq_append_cons.mp hsplit with ⟨rfl, -, rfl⟩ | ⟨rest, rfl, rfl⟩
    · exact .inl ⟨rfl, hy⟩
    · rw [List.forall_mem_append, List.forall_mem_singleton] at hlast hdrop hevict
      have hrest : Held ttl (earlier ++ y :: rest) key value stored rest :=
        ⟨⟨⟨earlier, y, rfl, hy⟩, hlast.1⟩, hdrop.1, hevict.1⟩
      exact .inr ⟨rest, rfl, hrest, hlast.2, hdrop.2, hevict.2⟩
  · intro h
    rcases h with ⟨rfl, hx⟩ | ⟨rest, rfl, hrest, hstores, hdrops, hevicts⟩
    · exact ⟨⟨⟨past, x, rfl, hx⟩, by simp⟩, by simp, by simp⟩
    · obtain ⟨earlier, y, rfl, hy⟩ := hrest.latest.stores
      refine ⟨⟨⟨earlier, y, by simp, hy⟩, ?_⟩, ?_, ?_⟩
      · exact List.forall_mem_append.mpr
          ⟨hrest.latest.last, List.forall_mem_singleton.mpr hstores⟩
      · exact List.forall_mem_append.mpr ⟨hrest.undropped, List.forall_mem_singleton.mpr hdrops⟩
      · exact List.forall_mem_append.mpr
          ⟨hrest.unevicted, List.forall_mem_singleton.mpr hevicts⟩

theorem ttl_afterAll (c : ExpiringCache α β) (calls : List (Call α β)) :
    (c.afterAll calls).ttl = c.ttl := by
  induction calls generalizing c with
  | nil => rfl
  | cons x calls ih => exact (ih _).trans (c.ttl_after x)

/-- **Calls lead to a cache when they are all timely**, to the one that they would lead to anyway.
-/
theorem afterAll?_eq_some {c d : ExpiringCache α β} {calls : List (Call α β)} :
    c.afterAll? calls = some d ↔ (∀ x ∈ calls, x.Timely c.ttl) ∧ c.afterAll calls = d := by
  induction calls generalizing c with
  | nil => simp [afterAll?, afterAll]
  | cons x calls ih =>
    have hstep : c.afterAll? (x :: calls) = (c.after? x).bind (·.afterAll? calls) :=
      List.foldlM_cons ..
    have hnext : c.afterAll (x :: calls) = (c.after x).afterAll calls := rfl
    rw [hstep, hnext, Option.bind_eq_some_iff, List.forall_mem_cons]
    simp only [after?_eq_some]
    constructor
    · rintro ⟨_, ⟨hx, rfl⟩, hrest⟩
      obtain ⟨hcalls, rfl⟩ := ih.mp hrest
      rw [ttl_after] at hcalls
      exact ⟨⟨hx, hcalls⟩, rfl⟩
    · rintro ⟨⟨hx, hcalls⟩, rfl⟩
      exact ⟨_, ⟨hx, rfl⟩, ih.mpr ⟨by rwa [ttl_after], rfl⟩⟩

theorem ofCalls?_eq_some_iff {c : ExpiringCache α β} {calls : List (Call α β)} :
    ofCalls? ttl calls = some c ↔ (∀ x ∈ calls, x.Timely ttl) ∧ ofCalls ttl calls = c :=
  afterAll?_eq_some

theorem ttl_ofCalls (ttl : Nat) (calls : List (Call α β)) : (ofCalls ttl calls).ttl = ttl :=
  ttl_afterAll _ calls

/-- **What is stored after any calls is what the calls hold.** -/
theorem stored?_ofCalls (ttl : Nat) (past : List (Call α β)) (key : α) (s : Stored β) :
    (ofCalls ttl past).stored? key = some s ↔
      ∃ stored since, Held ttl past key s.value stored since ∧ s.expires = stored + ttl := by
  induction past using List.reverseRecOn generalizing s with
  | nil =>
    refine iff_of_false (by simp [ofCalls, afterAll, stored?]) ?_
    intro h
    obtain ⟨stored, since, hheld, _⟩ := h
    exact not_held_nil hheld
  | append_singleton past x ih =>
    rw [ofCalls_snoc, stored?_after, ttl_ofCalls, slot_eq_some, ih]
    constructor
    · rintro (⟨hx, hexpires⟩ | ⟨⟨stored, rest, hheld, hexpires⟩, hstores, hdrops, hevicts⟩)
      · exact ⟨x.now, [], held_snoc.mpr (.inl ⟨rfl, hx, rfl⟩), hexpires⟩
      · rw [hexpires] at hevicts
        exact ⟨stored, rest ++ [x],
          held_snoc.mpr (.inr ⟨rest, rfl, hheld, hstores, hdrops, hevicts⟩), hexpires⟩
    · intro h
      obtain ⟨stored, since, hheld, hexpires⟩ := h
      rcases held_snoc.mp hheld with ⟨-, hx, rfl⟩ | ⟨rest, -, hrest, hstores, hdrops, hevicts⟩
      · exact .inl ⟨hx, hexpires⟩
      · rw [← hexpires] at hevicts
        exact .inr ⟨⟨stored, rest, hrest, hexpires⟩, hstores, hdrops, hevicts⟩

/-! ## Keys -/

theorem mem_keys {c : ExpiringCache α β} {key : α} :
    key ∈ c.entries.map Prod.fst ↔ ∃ s, c.stored? key = some s := by
  rw [← Option.isSome_iff_exists, stored?, List.lookup_isSome_iff, List.mem_map]
  refine exists_congr fun p => and_congr_right fun _ => ?_
  rw [beq_iff_eq, eq_comm]

theorem nodup_keys_erase {c : ExpiringCache α β} (h : (c.entries.map Prod.fst).Nodup) (key : α) :
    ((c.erase key).entries.map Prod.fst).Nodup :=
  h.sublist (List.filter_sublist.map Prod.fst)

theorem nodup_keys_after {c : ExpiringCache α β} (h : (c.entries.map Prod.fst).Nodup)
    (x : Call α β) : ((c.after x).entries.map Prod.fst).Nodup := by
  unfold after
  cases x.operation with
  | insert key value =>
    refine List.nodup_cons.mpr ⟨fun hmem => ?_, nodup_keys_erase h key⟩
    obtain ⟨s, hs⟩ := mem_keys.mp hmem
    rw [stored?_erase, if_pos rfl] at hs
    cases hs
  | get key =>
    simp only [get]
    split
    · exact h
    · split
      · exact h
      · exact nodup_keys_erase h key
  | invalidate key => exact nodup_keys_erase h key
  | clear => exact List.nodup_nil

theorem nodup_keys_ofCalls (ttl : Nat) (past : List (Call α β)) :
    ((ofCalls ttl past).entries.map Prod.fst).Nodup := by
  induction past using List.reverseRecOn with
  | nil => exact List.nodup_nil
  | append_singleton past x ih =>
    rw [ofCalls_snoc]
    exact nodup_keys_after ih x

/-! ## Calls that do not concern a key -/

theorem slot_of_not_concerns (h : x.concerns key = false) (before : Option (Stored β)) :
    slot ttl key x before = before := by
  unfold Call.concerns at h
  unfold slot
  cases hx : x.operation with
  | insert k value | get k | invalidate k => simp_all
  | clear => simp [hx] at h

/-- Without the calls that do not concern a key, the same is stored under it. -/
theorem stored?_filter (ttl : Nat) (past : List (Call α β)) (key : α) :
    (ofCalls ttl (past.filter (·.concerns key))).stored? key =
      (ofCalls ttl past).stored? key := by
  induction past using List.reverseRecOn with
  | nil => rfl
  | append_singleton past x ih =>
    rw [List.filter_append, ofCalls_snoc, stored?_after, ttl_ofCalls]
    cases hx : x.concerns key with
    | true =>
      rw [List.filter_singleton, hx, cond_true, ofCalls_snoc, stored?_after, ttl_ofCalls, ih]
    | false =>
      rw [List.filter_singleton, hx, cond_false, List.append_nil, ih, slot_of_not_concerns hx]

/-- Once nothing is under a key, there is nothing until something is stored. -/
theorem stored?_eq_none_afterAll {c : ExpiringCache α β} (h : c.stored? key = none)
    {later : List (Call α β)} (hlater : ∀ x ∈ later, ∀ value, ¬ x.Stores key value) :
    (c.afterAll later).stored? key = none := by
  induction later using List.reverseRecOn with
  | nil => exact h
  | append_singleton later x ih =>
    rw [List.forall_mem_append, List.forall_mem_singleton] at hlater
    rw [afterAll_snoc, stored?_after, ttl_afterAll, ih hlater.1, Option.eq_none_iff_forall_ne_some]
    intro s hs
    rcases slot_eq_some.mp hs with ⟨hx, -⟩ | ⟨hnone, -⟩
    · exact hlater.2 s.value hx
    · cases hnone

/-! ## Answers -/

theorem get_eq_some {c : ExpiringCache α β} {now : Nat} :
    (c.get now key).1 = some value ↔
      ∃ s, c.stored? key = some s ∧ s.value = value ∧ now < s.expires := by
  rw [get_fst, Option.map_eq_some_iff]
  simp only [live?_eq_some]
  constructor
  · intro h
    obtain ⟨s, ⟨hs, hnow⟩, hvalue⟩ := h
    exact ⟨s, hs, hvalue, hnow⟩
  · intro h
    obtain ⟨s, hs, hvalue, hnow⟩ := h
    exact ⟨s, ⟨hs, hnow⟩, hvalue⟩

theorem stored?_get_of_none {c : ExpiringCache α β} {now : Nat} (h : (c.get now key).1 = none) :
    (c.get now key).2.stored? key = none := by
  rw [get_fst, Option.map_eq_none_iff] at h
  rw [stored?_get, if_pos rfl]
  exact h

/-- That a cache answers by the calls that were made to it, at a moment after them. -/
structure Historical (ttl : Nat) (past : List (Call α β)) (now : Nat) (c : ExpiringCache α β) :
    Prop where
  /-- What is given out is the latest value, unless it was dropped since or has expired. -/
  get : ∀ key value, (c.get now key).1 = some value ↔
    ∃ stored since, Latest past key value stored since ∧ (∀ x ∈ since, ¬ x.Drops key) ∧
      now < stored + ttl
  /-- There is something to drop while the latest value is held, also when it has expired. -/
  invalidate : ∀ key, (c.invalidate key).1 = true ↔
    ∃ value stored since, Held ttl past key value stored since
  /-- As many values are kept as there are keys with a held one. -/
  size : ∃ keys : List α, keys.Nodup ∧ keys.length = c.size ∧
    ∀ key, key ∈ keys ↔ ∃ value stored since, Held ttl past key value stored since
  /-- Without all calls that are about other keys, a key has the same answers. -/
  apart : ∀ key, ∃ d, ofCalls? ttl (past.filter (·.concerns key)) = some d ∧
    (c.get now key).1 = (d.get now key).1 ∧ (c.invalidate key).1 = (d.invalidate key).1
  /-- Once a key gives nothing, it gives nothing until something is stored under it. -/
  silent : ∀ key, (c.get now key).1 = none → ∀ between : List (Call α β),
    (∀ x ∈ between, ∀ value, ¬ x.Stores key value) →
      ∀ d, (c.get now key).2.afterAll? between = some d → ∀ later, (d.get later key).1 = none

omit [DecidableEq α] in
/-- Before the latest value has expired, nobody can have evicted it. -/
theorem held_of_latest {now : Nat} (hlatest : Latest past key value stored since)
    (hdrop : ∀ x ∈ since, ¬ x.Drops key) (hnow : now < stored + ttl)
    (hclock : ∀ x ∈ past, x.now ≤ now) : Held ttl past key value stored since := by
  refine ⟨hlatest, hdrop, fun x hx hevicts => ?_⟩
  obtain ⟨earlier, y, rfl, -⟩ := hlatest.stores
  have hle := hclock x (by simp [hx])
  have hexpired := hevicts.expired
  omega

/-- **After any calls on a clock that does not run backwards, a cache answers by its history.**
There is one after the calls when the clock can show the expiry of all that they store. -/
theorem ofCalls_historical (ttl : Nat) (past : List (Call α β)) (now : Nat)
    (hclock : (past.map (·.now) ++ [now]).Pairwise (· ≤ ·)) :
    ((∃ c, ofCalls? ttl past = some c) ↔ ∀ x ∈ past, x.Timely ttl) ∧
      ∀ c, ofCalls? ttl past = some c → Historical ttl past now c := by
  refine ⟨by simp [ofCalls?_eq_some_iff], fun c hc => ?_⟩
  obtain ⟨htimely, rfl⟩ := ofCalls?_eq_some_iff.mp hc
  have hstored := stored?_ofCalls ttl past
  have hpast : ∀ x ∈ past, x.now ≤ now := by
    intro x hx
    exact (List.pairwise_append.mp hclock).2.2 x.now (List.mem_map_of_mem hx) now (by simp)
  have hheld : ∀ key, (∃ s, (ofCalls ttl past).stored? key = some s) ↔
      ∃ value stored since, Held ttl past key value stored since := by
    intro key
    constructor
    · intro h
      obtain ⟨s, hs⟩ := h
      obtain ⟨stored, since, h, -⟩ := (hstored key s).mp hs
      exact ⟨s.value, stored, since, h⟩
    · intro h
      obtain ⟨value, stored, since, h⟩ := h
      exact ⟨⟨value, stored + ttl⟩, (hstored key _).mpr ⟨stored, since, h, rfl⟩⟩
  refine
    { get := fun key value => ?_
      invalidate := fun key => ?_
      size := ⟨_, nodup_keys_ofCalls ttl past, List.length_map _, fun key => ?_⟩
      apart := fun key => ?_
      silent := fun key hnone between hbetween d hd later => ?_ }
  · rw [get_eq_some]
    constructor
    · intro h
      obtain ⟨s, hs, hvalue, hnow⟩ := h
      obtain ⟨stored, since, h, hexpires⟩ := (hstored key s).mp hs
      subst hvalue
      rw [hexpires] at hnow
      exact ⟨stored, since, h.latest, h.undropped, hnow⟩
    · intro h
      obtain ⟨stored, since, hlatest, hdrop, hnow⟩ := h
      have h := held_of_latest hlatest hdrop hnow hpast
      exact ⟨⟨value, stored + ttl⟩, (hstored key _).mpr ⟨stored, since, h, rfl⟩, rfl, hnow⟩
  · show (stored? _ key).isSome = true ↔ _
    rw [Option.isSome_iff_exists, hheld]
  · rw [mem_keys, hheld]
  · have hsame := stored?_filter ttl past key
    have hfew : ∀ x ∈ past.filter (·.concerns key), x.Timely ttl :=
      fun x hx => htimely x (List.mem_of_mem_filter hx)
    refine ⟨_, ofCalls?_eq_some_iff.mpr ⟨hfew, rfl⟩, ?_, ?_⟩
    · rw [get_fst, get_fst, live?, live?, hsame]
    · simp only [invalidate, hsame]
  · obtain ⟨-, rfl⟩ := afterAll?_eq_some.mp hd
    have hstill := stored?_eq_none_afterAll (stored?_get_of_none hnone) hbetween
    rw [get_fst, live?, hstill]
    rfl

/-- Two keys; one of them is asked for when it has just expired, and stored again. -/
def sampleCalls : List (Call String Nat) :=
  [⟨0, .insert "/r" 1⟩, ⟨1, .insert "/q" 2⟩, ⟨10, .get "/r"⟩, ⟨10, .insert "/r" 3⟩]

/-- What has expired is not given out, but there is something to drop until it is asked for. -/
theorem ofCalls_historical_sampleCalls :
    (sampleCalls.map Call.now ++ [11]).Pairwise (· ≤ ·) ∧
      ∃ c, ofCalls? 10 sampleCalls = some c ∧ (c.get 11 "/r").1 = some 3 ∧
        (c.get 11 "/q").1 = none ∧ (c.invalidate "/q").1 = true := by
  have hclock : (sampleCalls.map Call.now ++ [11]).Pairwise (· ≤ ·) := by decide
  obtain ⟨hmade, hhistorical⟩ := ofCalls_historical 10 sampleCalls 11 hclock
  have hnow : ∀ x ∈ sampleCalls, x.now + 10 ≤ 20 := by decide
  obtain ⟨c, hc⟩ := hmade.mpr fun x hx _ _ _ => (by decide : Clock.Shows 20).of_le (hnow x hx)
  have h := hhistorical c hc
  refine ⟨hclock, c, hc, (h.get "/r" 3).mpr ⟨10, [], ?_, by simp, by decide⟩, ?_, ?_⟩
  · exact ⟨⟨sampleCalls.dropLast, _, rfl, rfl, rfl⟩, by simp⟩
  · obtain rfl := (ofCalls?_eq_some_iff.mp hc).2
    rfl
  · refine (h.invalidate "/q").mpr ⟨2, 1, sampleCalls.drop 2, ?_, ?_, ?_⟩
    · refine ⟨⟨sampleCalls.take 1, _, rfl, rfl, rfl⟩, ?_⟩
      simp [sampleCalls, Call.Stores]
    · simp [sampleCalls, Call.Drops]
    · simp [sampleCalls, Call.evicts_iff]

/-- A value that is to be kept for as many seconds as 64 bits can count is never stored. -/
theorem not_every_run_historical :
    ¬ ∀ (ttl : Nat) (past : List (Call String Nat)) (now : Nat),
      (past.map (·.now) ++ [now]).Pairwise (· ≤ ·) →
        ∃ c, ofCalls? ttl past = some c ∧ Historical ttl past now c := by
  intro hall
  obtain ⟨c, hc, -⟩ := hall (Duration.ofSeconds (2 ^ 64 - 1)) [⟨0, .insert "/r" 1⟩] 0 (by decide)
  have hlate := (ofCalls?_eq_some_iff.mp hc).1 _ (List.mem_singleton.mpr rfl) "/r" 1 rfl
  revert hlate
  decide

end ExpiringCache
end Dossier
