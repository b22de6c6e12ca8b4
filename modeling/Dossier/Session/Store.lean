import Dossier.Analysis.Build
import Dossier.Cache.Expiring
import Dossier.Cache.Location

/-!
# Stores of snapshots

An analyzer that remembers what it built. A root is asked for by any path that leads to it. A
snapshot that has not expired is given again for the same canonical root; otherwise a new one is
built. Every snapshot that is built gets a number of its own, so that one that is given again can
be told from one that only looks the same. An analysis that fails leaves nothing behind.
-/

set_option autoImplicit false

namespace Dossier

/-- A snapshot with the number of its building. -/
structure Edition where
  number : Nat
  snapshot : Snapshot
deriving Inhabited

/-- Why a request was not answered. -/
inductive Interruption where
  /-- There is no snapshot. -/
  | failed (e : AnalysisError)
  /-- The clock cannot show the moment at which the snapshot would expire. -/
  | clockOverflow
  /-- The tokens of an assembled text cannot be counted. -/
  | countOverflow
deriving DecidableEq, Repr

/-- The report of an interruption. -/
def Interruption.message : Interruption → String
  | .failed e => e.message
  | .clockOverflow => "overflow when adding duration to instant"
  | .countOverflow => "attempt to add with overflow"

/-- An analyzer with the snapshots that it keeps, the time, and the number of snapshots built. -/
structure Store where
  analyzer : Analyzer
  /-- None when snapshots are not kept. -/
  cache : Option (ExpiringCache Location Edition)
  /-- What the clock shows. -/
  now : Nat
  built : Nat := 0

namespace Store

/-- The store that the settings describe, without any snapshot, when the clock shows `now`. -/
def ofSettings (s : Settings) (now : Nat) : Store where
  analyzer := .ofSettings s.analyzer
  cache := if s.cache.enabled then some ⟨Duration.ofSeconds s.cache.ttlSeconds, []⟩ else none
  now

/-- The kept snapshot of a location, and the store after asking for it. -/
def lookup? (s : Store) (key : Location) : Option Edition × Store :=
  match s.cache with
  | none => (none, s)
  | some c =>
    let (found, c) := c.get s.now key
    (found, { s with cache := some c })

/-- The store that keeps one more edition, unless the clock cannot show its expiry. -/
def keep? (s : Store) (key : Location) (e : Edition) : Option Store :=
  let s := { s with built := e.number }
  match s.cache with
  | none => some s
  | some c => (c.insert? s.now key e).map fun c => { s with cache := some c }

/-- A new snapshot of what a path leads to. -/
def renew (s : Store) (l : Located) : Except Interruption Edition × Store :=
  match s.analyzer.build l with
  | .error e => (.error (.failed e), s)
  | .ok snapshot =>
    let e : Edition := ⟨s.built + 1, snapshot⟩
    match s.keep? (.ofString l.path) e with
    | none => (.error .clockOverflow, s)
    | some s => (.ok e, s)

/-- The snapshot of the repository that a path leads to, a kept one if there is one. -/
def analyze (s : Store) (path : String) (found : Except Fault Located) :
    Except Interruption Edition × Store :=
  match found with
  | .error fault => (.error (.failed (.root path fault)), s)
  | .ok l =>
    match s.lookup? (.ofString l.path) with
    | (some e, s) => (.ok e, s)
    | (none, s) => s.renew l

/-- Whether a snapshot was kept for what a path leads to, and the store without it. -/
def invalidate (s : Store) (found : Except Fault Located) : Bool × Store :=
  match found, s.cache with
  | .ok l, some c =>
    let (had, c) := c.invalidate (.ofString l.path)
    (had, { s with cache := some c })
  | _, _ => (false, s)

/-- Without any kept snapshot. -/
def clear (s : Store) : Store := { s with cache := s.cache.map ExpiringCache.clear }

/-- At a later time. -/
def advance (s : Store) (nanos : Nat) : Store := { s with now := s.now + nanos }

/-- The number of kept snapshots, expired ones included; none when snapshots are not kept. -/
def size (s : Store) : Option Nat := s.cache.map ExpiringCache.size

end Store
end Dossier
