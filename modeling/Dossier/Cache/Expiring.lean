import Dossier.Cache.Clock

/-!
# Expiring caches

Values by key, each kept for the same span of time. A value that has expired is no longer given out,
but it is dropped only when it is next asked for. A value whose expiry the clock cannot show cannot
be stored.
-/

set_option autoImplicit false

namespace Dossier

/-- A stored value with the moment from which it has expired. -/
structure Stored (β : Type) where
  value : β
  expires : Nat

/-- Values of type `β` by keys of type `α`, the latest first, one for each key. -/
structure ExpiringCache (α β : Type) where
  ttl : Nat
  entries : List (α × Stored β) := []

namespace ExpiringCache

variable {α β : Type} [BEq α]

/-- What is stored under a key, expired or not. -/
def stored? (c : ExpiringCache α β) (key : α) : Option (Stored β) := c.entries.lookup key

def erase (c : ExpiringCache α β) (key : α) : ExpiringCache α β :=
  { c with entries := c.entries.filter fun (k, _) => !(k == key) }

/-- The value under a key unless it has expired, and the cache without it if it has. -/
def get (c : ExpiringCache α β) (now : Nat) (key : α) : Option β × ExpiringCache α β :=
  match c.stored? key with
  | none => (none, c)
  | some s => if now < s.expires then (some s.value, c) else (none, c.erase key)

/-- With a value under a key, in place of an earlier one. -/
def put (c : ExpiringCache α β) (now : Nat) (key : α) (value : β) : ExpiringCache α β :=
  { c with entries := (key, ⟨value, now + c.ttl⟩) :: (c.erase key).entries }

/-- Like `put`, unless the clock cannot show the moment of expiry. -/
def insert? (c : ExpiringCache α β) (now : Nat) (key : α) (value : β) :
    Option (ExpiringCache α β) :=
  if Clock.Shows (now + c.ttl) then some (c.put now key value) else none

/-- Whether something is stored under a key, and the cache without it. -/
def invalidate (c : ExpiringCache α β) (key : α) : Bool × ExpiringCache α β :=
  ((c.stored? key).isSome, c.erase key)

omit [BEq α] in
def clear (c : ExpiringCache α β) : ExpiringCache α β := { c with entries := [] }

omit [BEq α] in
/-- The number of values, expired ones included. -/
def size (c : ExpiringCache α β) : Nat := c.entries.length

omit [BEq α] in
/-- A short account of a cache of snapshots. -/
def describe (c : ExpiringCache α β) : String :=
  "RepoMapCache \x7b ttl: " ++ Duration.write c.ttl ++ ", entries: " ++ toString c.size ++ " \x7d"

end ExpiringCache
end Dossier
