import Dossier.Cache.Expiring
import Mathlib.Data.Option.Basic

/-!
# What is live in a cache

An expired value may still lie in a cache, until it is asked for. Whether it does cannot be seen
from outside: `live?` is what is stored and has not expired, and everything that a cache gives out
is read off it. Asking changes nothing in it (`live?_get`), and as time goes on it only loses what
expires (`live?_later`).
-/

set_option autoImplicit false

namespace Dossier.ExpiringCache

variable {α β : Type} [DecidableEq α]

/-- What is stored under a key and has not expired. -/
def live? (c : ExpiringCache α β) (now : Nat) (key : α) : Option (Stored β) :=
  (c.stored? key).filter fun s => now < s.expires

theorem live?_eq_some {c : ExpiringCache α β} {now : Nat} {key : α} {s : Stored β} :
    c.live? now key = some s ↔ c.stored? key = some s ∧ now < s.expires := by
  unfold live?
  rw [Option.filter_eq_some_iff, decide_eq_true_eq]

theorem lookup_cons_of_ne {γ : Type} {k key : α} (h : k ≠ key) (x : γ) (es : List (α × γ)) :
    List.lookup k ((key, x) :: es) = List.lookup k es := by
  rw [List.lookup_cons, beq_false_of_ne h]

theorem stored?_erase (c : ExpiringCache α β) (key k : α) :
    (c.erase key).stored? k = if k = key then none else c.stored? k := by
  unfold stored? erase
  dsimp only
  induction c.entries with
  | nil => simp
  | cons p ps ih =>
    obtain ⟨k', s⟩ := p
    rw [List.filter_cons]
    by_cases hkey : k' = key
    · -- The entry goes, and only its own key notices.
      subst hkey
      simp only [BEq.rfl, Bool.not_true, Bool.false_eq_true, if_false, ih]
      split
      · rfl
      · next hk => rw [lookup_cons_of_ne hk]
    · simp only [beq_false_of_ne hkey, Bool.not_false, if_true]
      by_cases hk : k = k'
      · subst hk
        rw [List.lookup_cons_self, List.lookup_cons_self, if_neg hkey]
      · rw [lookup_cons_of_ne hk, lookup_cons_of_ne hk, ih]

theorem stored?_put (c : ExpiringCache α β) (now : Nat) (key k : α) (value : β) :
    (c.put now key value).stored? k =
      if k = key then some ⟨value, now + c.ttl⟩ else c.stored? k := by
  by_cases hk : k = key
  · subst hk
    simp [stored?, put]
  · have hother : (c.put now key value).stored? k = (c.erase key).stored? k :=
      lookup_cons_of_ne hk _ _
    rw [if_neg hk, hother, stored?_erase, if_neg hk]

theorem stored?_get (c : ExpiringCache α β) (now : Nat) (key k : α) :
    (c.get now key).2.stored? k =
      if k = key then (c.stored? k).filter fun s => now < s.expires else c.stored? k := by
  unfold get
  by_cases hk : k = key
  · subst hk
    cases h : c.stored? k with
    | none => simp [h]
    | some s => by_cases hnow : now < s.expires <;> simp [h, hnow, stored?_erase, Option.filter]
  · rw [if_neg hk]
    split
    · rfl
    · split
      · rfl
      · rw [stored?_erase, if_neg hk]

/-- What is live later is what is live now and has not expired by then. -/
theorem live?_later (c : ExpiringCache α β) {now later : Nat} (h : now ≤ later) (key : α) :
    c.live? later key = (c.live? now key).filter fun s => later < s.expires := by
  unfold live?
  rw [Option.filter_filter]
  congr 1
  funext s
  rw [← Bool.decide_and]
  exact decide_eq_decide.mpr ⟨fun hlt => ⟨Nat.lt_of_le_of_lt h hlt, hlt⟩, And.right⟩

theorem get_fst (c : ExpiringCache α β) (now : Nat) (key : α) :
    (c.get now key).1 = (c.live? now key).map (·.value) := by
  unfold get live?
  cases c.stored? key with
  | none => rfl
  | some s => by_cases h : now < s.expires <;> simp [h, Option.filter]

theorem ttl_get (c : ExpiringCache α β) (now : Nat) (key : α) : (c.get now key).2.ttl = c.ttl := by
  unfold get
  split
  · rfl
  · split <;> rfl

/-- Where something is live, asking leaves the cache as it is. -/
theorem get_snd_of_live {c : ExpiringCache α β} {now : Nat} {key : α} {s : Stored β}
    (h : c.live? now key = some s) : (c.get now key).2 = c := by
  obtain ⟨hstored, hlive⟩ := live?_eq_some.mp h
  unfold get
  rw [hstored]
  simp [hlive]

theorem live?_get (c : ExpiringCache α β) {now later : Nat} (h : now ≤ later) (key k : α) :
    (c.get now key).2.live? later k = c.live? later k := by
  unfold live?
  rw [stored?_get]
  split
  · show (c.live? now k).filter _ = c.live? later k
    exact (c.live?_later h k).symm
  · rfl

/-- What is put under a key is live for the time to live; other keys keep what they have. -/
theorem live?_put (c : ExpiringCache α β) (now later : Nat) (key k : α) (value : β) :
    (c.put now key value).live? later k =
      if k = key then if later < now + c.ttl then some ⟨value, now + c.ttl⟩ else none
      else c.live? later k := by
  unfold live?
  rw [stored?_put]
  split
  · simp [Option.filter]
  · rfl

theorem live?_clear (c : ExpiringCache α β) (now : Nat) (key : α) :
    c.clear.live? now key = none := rfl

end Dossier.ExpiringCache
