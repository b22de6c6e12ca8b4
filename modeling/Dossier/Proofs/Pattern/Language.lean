import Dossier.Proofs.Pattern.Reach
import Mathlib.Computability.Language

/-!
# Languages of patterns

A pattern that does not look around has a language: what it takes does not depend on what stands
before and after. `HasLanguage` is built up construct by construct, and a pattern matches the whole
of exactly the texts of its language.
-/

set_option autoImplicit false

/-- A language of texts. It stands outside because languages inside are those of source files. -/
abbrev TextLanguage := Language Char

namespace Dossier.Pattern

open scoped Computability

/-! ## Some languages -/

/-- The texts of one character with a property. -/
def oneChar (P : Char → Prop) : TextLanguage := {v | ∃ x, P x ∧ v = [x]}

/-- The texts of characters with a property. -/
def allChars (P : Char → Prop) : TextLanguage := {v | ∀ x ∈ v, P x}

theorem mem_allChars {P : Char → Prop} {v : List Char} : v ∈ allChars P ↔ ∀ x ∈ v, P x := Iff.rfl

/-- Characters with a property are texts of one such character, one after another. -/
theorem kstar_oneChar (P : Char → Prop) : (oneChar P)∗ = allChars P := by
  ext v
  rw [Language.mem_kstar, mem_allChars]
  constructor
  · rintro ⟨vs, rfl, hvs⟩ x hx
    obtain ⟨v, hv, hx⟩ := List.mem_flatten.mp hx
    obtain ⟨y, hy, rfl⟩ := hvs v hv
    rwa [List.mem_singleton.mp hx]
  · intro h
    refine ⟨v.map fun x => [x], ?_, ?_⟩
    · exact (List.flatMap_singleton' v).symm
    · intro u hu
      obtain ⟨x, hx, rfl⟩ := List.mem_map.mp hu
      exact ⟨x, h x hx, rfl⟩

/-! ## Patterns -/

/-- What the pattern takes, wherever it stands. -/
def HasLanguage (p : Pattern) (L : TextLanguage) : Prop :=
  ∀ u v t : List Char, Takes p u v t ↔ v ∈ L

variable {p q : Pattern} {L M : TextLanguage}

theorem hasLanguage_empty : HasLanguage .empty 1 := by
  intro u v t
  rw [takes_empty_iff, Language.mem_one]
  exact and_iff_left rfl

theorem hasLanguage_one {s : CharSet} {P : Char → Prop} (hs : ∀ x, s.has x = true ↔ P x) :
    HasLanguage (.one s) (oneChar P) := by
  intro u v t
  constructor
  · intro h
    cases h with
    | one hx => exact ⟨_, (hs _).mp hx, rfl⟩
  · rintro ⟨x, hx, rfl⟩
    exact .one ((hs x).mpr hx)

theorem hasLanguage_run {s : CharSet} {P : Char → Prop} (hs : ∀ x, s.has x = true ↔ P x) :
    HasLanguage (.run s false) (allChars P) := by
  intro u v t
  constructor
  · intro h
    cases h with
    | run h => exact fun x hx => (hs x).mp (h x hx)
  · intro h
    exact .run (fun x hx => (hs x).mpr (h x hx)) (by simp)

theorem HasLanguage.seq (hp : HasLanguage p L) (hq : HasLanguage q M) :
    HasLanguage (.seq p q) (L * M) := by
  intro u v t
  rw [Language.mem_mul]
  constructor
  · intro h
    cases h with
    | seq h₁ h₂ => exact ⟨_, (hp _ _ _).mp h₁, _, (hq _ _ _).mp h₂, rfl⟩
  · rintro ⟨x, hx, y, hy, rfl⟩
    exact .seq ((hp _ _ _).mpr hx) ((hq _ _ _).mpr hy)

theorem HasLanguage.opt (hp : HasLanguage p L) : HasLanguage (.opt p) (1 + L) := by
  intro u v t
  rw [Language.mem_add, Language.mem_one]
  constructor
  · intro h
    cases h with
    | present h => exact .inr ((hp _ _ _).mp h)
    | absent => exact .inl rfl
  · rintro (rfl | h)
    · exact .absent u t
    · exact .present ((hp _ _ _).mpr h)

theorem hasLanguage_sequence {α : Type} {pattern : α → Pattern} {language : α → TextLanguage}
    (h : ∀ a, HasLanguage (pattern a) (language a)) (as : List α) :
    HasLanguage (sequence (as.map pattern)) (as.map language).prod := by
  induction as with
  | nil => exact hasLanguage_empty
  | cons a as ih =>
    rw [List.map_cons, List.map_cons, List.prod_cons]
    exact (h a).seq ih

theorem HasLanguage.matchesWhole_iff (hp : HasLanguage p L) (text : String) :
    p.matchesWhole text = true ↔ text.toList ∈ L := by
  rw [Pattern.matchesWhole_iff]
  exact hp _ _ _

end Dossier.Pattern
