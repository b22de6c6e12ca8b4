import Dossier.Proofs.TokenEstimator
import Dossier.Selection.Assembly

/-!
# The longest affordable part

Assembling stops at the first section that does not fit, and this is as good as it gets: what is
taken is the longest part at the front of the list whose estimates add up to no more than the ceiling
(`isLongest_affordable`), with the sum taken over the natural numbers. So the text under a lesser
ceiling, or of a part of the list, is a beginning of the text under the greater one
(**`assemble_longest`**).

The sum is kept in 32 bits. It never leaves them, except under the greatest ceiling of all: a sum
that is too great is held against the ceiling as the greatest number, so there no section is refused,
and a list that costs more cannot be assembled at all (**`assemble_counted`**).
-/

set_option autoImplicit false

namespace Dossier

open TokenEstimator

namespace Assembly

/-! ## Sums of token counts -/

theorem fits_iff {a b : UInt32} : fits a b = true ↔ a.toNat + b.toNat ≤ ceiling := decide_eq_true_iff

theorem toNat_add_of_fits {a b : UInt32} (h : a.toNat + b.toNat ≤ ceiling) :
    (a + b).toNat = a.toNat + b.toNat := by
  rw [UInt32.toNat_add, Nat.mod_eq_of_lt]
  exact Nat.lt_succ_of_le h

theorem toNat_saturatingAdd (a b : UInt32) :
    (saturatingAdd a b).toNat = min (a.toNat + b.toNat) ceiling := by
  unfold saturatingAdd
  split
  · next h =>
    have hle := fits_iff.mp h
    rw [toNat_add_of_fits hle, min_eq_left hle]
  · next h =>
    have hlt := not_le.mp (h ∘ fits_iff.mpr)
    rw [min_eq_right hlt.le]
    rfl

/-- A sum is too great for a ceiling, if the ceiling is not the greatest one. -/
theorem lt_saturatingAdd_iff {maxTokens used tokens : UInt32} :
    maxTokens < saturatingAdd used tokens ↔
      maxTokens.toNat < used.toNat + tokens.toNat ∧ maxTokens.toNat < ceiling := by
  rw [UInt32.lt_iff_toNat_lt, toNat_saturatingAdd, lt_min_iff]

/-! ## What can be afforded -/

section Costs

variable (e : TokenEstimator)

/-- The estimate of the section of a chunk. -/
def cost (c : Chunk) : ℕ := (e.estimate c.excerpt).toNat

def costs (cs : List Chunk) : ℕ := (cs.map (cost e)).sum

/-- The longest part at the front of a list that costs no more than a number of tokens. -/
def affordable : ℕ → List Chunk → List Chunk
  | _, [] => []
  | max, c :: cs => if cost e c ≤ max then c :: affordable (max - cost e c) cs else []

/-- The sections of chunks, one after the other. -/
def textOf (cs : List Chunk) : String := String.join (cs.map Chunk.excerpt)

/-- A part at the front of a list that costs no more than a number of tokens, and the longest one. -/
structure IsLongest (max : ℕ) (cs part : List Chunk) : Prop where
  leading : part <+: cs
  affordable : costs e part ≤ max
  longest : ∀ other, other <+: cs → costs e other ≤ max → other <+: part

end Costs

section Parts

variable {e : TokenEstimator} {max : ℕ} {cs : List Chunk}

@[simp]
theorem costs_nil : costs e [] = 0 := rfl

@[simp]
theorem costs_cons (c : Chunk) : costs e (c :: cs) = cost e c + costs e cs := List.sum_cons

theorem textOf_append (cs ds : List Chunk) : textOf (cs ++ ds) = textOf cs ++ textOf ds := by
  rw [textOf, List.map_append, String.join_append]
  rfl

theorem isLongest_nil : IsLongest e max [] [] where
  leading := List.prefix_rfl
  affordable := Nat.zero_le max
  longest _ hleading _ := hleading

theorem IsLongest.cons {c : Chunk} {part : List Chunk} (hc : cost e c ≤ max)
    (h : IsLongest e (max - cost e c) cs part) : IsLongest e max (c :: cs) (c :: part) where
  leading := List.prefix_cons_inj c |>.mpr h.leading
  affordable := by
    have hpart := h.affordable
    rw [costs_cons]
    omega
  longest := by
    intro other hleading hcost
    rcases List.prefix_cons_iff.mp hleading with rfl | ⟨rest, rfl, hrest⟩
    · exact List.nil_prefix
    · rw [costs_cons] at hcost
      exact List.prefix_cons_inj c |>.mpr (h.longest rest hrest (by omega))

theorem isLongest_of_lt {c : Chunk} (hc : max < cost e c) : IsLongest e max (c :: cs) [] where
  leading := List.nil_prefix
  affordable := Nat.zero_le max
  longest := by
    intro other hleading hcost
    rcases List.prefix_cons_iff.mp hleading with rfl | ⟨rest, rfl, -⟩
    · exact List.nil_prefix
    · rw [costs_cons] at hcost
      omega

theorem isLongest_affordable (max : ℕ) (cs : List Chunk) :
    IsLongest e max cs (affordable e max cs) := by
  induction cs generalizing max with
  | nil => exact isLongest_nil
  | cons c cs ih =>
    unfold affordable
    split
    · next h => exact (ih (max - cost e c)).cons h
    · next h => exact isLongest_of_lt (not_le.mp h)

/-- More is affordable of a longer list, and for more tokens. -/
theorem affordable_mono {lower : ℕ} {front : List Chunk} (hlower : lower ≤ max)
    (hfront : front <+: cs) : affordable e lower front <+: affordable e max cs := by
  have hpart := isLongest_affordable (e := e) lower front
  exact (isLongest_affordable max cs).longest _ (hpart.leading.trans hfront)
    (hpart.affordable.trans hlower)

theorem affordable_of_costs_le (h : costs e cs ≤ max) : affordable e max cs = cs :=
  (isLongest_affordable max cs).leading.eq_of_length_le
    ((isLongest_affordable max cs).longest cs List.prefix_rfl h).length_le

/-- The standard estimate of a text is no more than those of its sections together. -/
theorem estimate_textOf_le (cs : List Chunk) :
    (standard.estimate (textOf cs)).toNat ≤ costs standard cs := by
  induction cs with
  | nil =>
    rw [estimate, toNat_estimateChars_standard]
    exact Nat.min_le_left _ _
  | cons c cs ih =>
    have hjoined : textOf (c :: cs) = c.excerpt ++ textOf cs := String.join_cons
    rw [hjoined, costs_cons]
    exact (estimate_append_le _ _).trans (Nat.add_le_add_left ih _)

end Parts

/-! ## What is taken -/

/-- **What is taken is what can be afforded**, or too much to be counted. -/
theorem take_eq (e : TokenEstimator) {maxTokens used : UInt32} (cs : List Chunk)
    (hused : used ≤ maxTokens) : take e maxTokens used cs =
      if maxTokens.toNat = ceiling ∧ ceiling < used.toNat + costs e cs then none
      else some ((affordable e (maxTokens.toNat - used.toNat) cs).map Chunk.excerpt) := by
  have hmax : maxTokens.toNat ≤ ceiling := Nat.le_of_lt_succ maxTokens.toNat_lt
  induction cs generalizing used with
  | nil =>
    have hused := UInt32.le_iff_toNat_le.mp hused
    rw [if_neg (by simp; omega)]
    rfl
  | cons c cs ih =>
    have hused := UInt32.le_iff_toNat_le.mp hused
    have hcost : (e.estimate c.excerpt).toNat = cost e c := rfl
    unfold take affordable
    simp only [lt_saturatingAdd_iff, hcost, fits_iff, costs_cons]
    by_cases hstop : maxTokens.toNat < used.toNat + cost e c ∧ maxTokens.toNat < ceiling
    · rw [if_pos hstop, if_neg (by omega), if_neg (by omega)]
      rfl
    · rw [if_neg hstop]
      by_cases hfits : used.toNat + cost e c ≤ ceiling
      · have hsum := toNat_add_of_fits (a := used) (b := e.estimate c.excerpt) hfits
        rw [hcost] at hsum
        have hle : used + e.estimate c.excerpt ≤ maxTokens := by
          rw [UInt32.le_iff_toNat_le, hsum]
          omega
        rw [if_pos hfits, ih hle, hsum, if_pos (by omega : cost e c ≤ maxTokens.toNat - used.toNat),
          Nat.add_assoc, Nat.sub_sub]
        split <;> rfl
      · -- Only the greatest ceiling admits what cannot be counted.
        rw [if_neg hfits, if_pos (by omega)]

end Assembly

open Assembly

variable {e : TokenEstimator} {maxTokens : UInt32} {cs : List Chunk}

theorem assemble?_eq : assemble? e maxTokens cs =
    if maxTokens.toNat = ceiling ∧ ceiling < costs e cs then none
    else some (textOf (affordable e maxTokens.toNat cs)) := by
  have hzero : (0 : UInt32).toNat = 0 := rfl
  rw [assemble?, take_eq e cs UInt32.zero_le, hzero, Nat.zero_add, Nat.sub_zero]
  split <;> rfl

/-- Below the greatest ceiling there always is a text. -/
theorem assemble?_of_lt (h : maxTokens.toNat < ceiling) (e : TokenEstimator) (cs : List Chunk) :
    assemble? e maxTokens cs = some (textOf (affordable e maxTokens.toNat cs)) := by
  rw [assemble?_eq, if_neg fun hnone => absurd hnone.1 h.ne]

/-- **What is assembled is the longest part that can be afforded.** A lesser ceiling or a part of the
list leads to a beginning of the text, and by the standard ratio the text keeps to the ceiling as a
whole. -/
theorem Assembly.assemble_longest (h : maxTokens.toNat < ceiling) (e : TokenEstimator)
    (cs : List Chunk) :
    (∃ part, IsLongest e maxTokens.toNat cs part ∧
      assemble? e maxTokens cs = some (textOf part)) ∧
    (∀ lower ≤ maxTokens, ∀ front, front <+: cs → ∃ text rest,
      assemble? e lower front = some text ∧ assemble? e maxTokens cs = some (text ++ rest)) ∧
    ∃ text, assemble? standard maxTokens cs = some text ∧ standard.estimate text ≤ maxTokens := by
  refine ⟨⟨_, isLongest_affordable _ cs, assemble?_of_lt h e cs⟩, ?_,
    ⟨_, assemble?_of_lt h standard cs, ?_⟩⟩
  · intro lower hlower front hfront
    have hlower := UInt32.le_iff_toNat_le.mp hlower
    obtain ⟨more, hmore⟩ := affordable_mono (e := e) hlower hfront
    refine ⟨_, textOf more, assemble?_of_lt (hlower.trans_lt h) e front, ?_⟩
    rw [assemble?_of_lt h e cs, ← hmore, textOf_append]
  · exact UInt32.le_iff_toNat_le.mpr
      ((estimate_textOf_le _).trans (isLongest_affordable _ cs).affordable)

namespace Assembly

def sampleFirst : Chunk := ⟨"a.rs", "a.rs", "fn a() {}", 3, 0.5, .other, [], []⟩

def sampleSecond : Chunk := ⟨"b.rs", "b.rs", "fn b() {}", 3, 0.5, .other, [], []⟩

/-- Ten tokens are enough for one of two sections of seven tokens each. -/
theorem assemble_longest_sampleFiles : (10 : UInt32).toNat < ceiling ∧
    (∃ part, IsLongest standard 10 [sampleFirst, sampleSecond] part ∧
      assemble? standard 10 [sampleFirst, sampleSecond] = some (textOf part)) ∧
    (∃ text rest, assemble? standard 7 [sampleFirst] = some text ∧
      assemble? standard 10 [sampleFirst, sampleSecond] = some (text ++ rest)) ∧
    ∃ text, assemble? standard 10 [sampleFirst, sampleSecond] = some text ∧
      standard.estimate text ≤ 10 := by
  have hlt : (10 : UInt32).toNat < ceiling := by decide
  obtain ⟨hpart, hbeginning, hestimate⟩ :=
    assemble_longest hlt standard [sampleFirst, sampleSecond]
  exact ⟨hlt, hpart, hbeginning 7 (by decide) [sampleFirst] ⟨[sampleSecond], rfl⟩, hestimate⟩

example : assemble? standard 10 [sampleFirst, sampleSecond] =
    some "// File: a.rs\nfn a() {}\n\n" := by decide

/-! ## Under the greatest ceiling -/

/-- What can come of assembling. -/
inductive Outcome (e : TokenEstimator) (maxTokens : UInt32) (cs : List Chunk) : Option String → Prop
  /-- No section is refused under the greatest ceiling, so the sum leaves 32 bits. -/
  | overflow (hmax : maxTokens.toNat = ceiling) (hcosts : ceiling < costs e cs) :
    Outcome e maxTokens cs none
  /-- Otherwise the sum is exact, and what is taken keeps to the ceiling. -/
  | text (part : List Chunk) (hpart : IsLongest e maxTokens.toNat cs part)
    (hcounted : maxTokens.toNat = ceiling → costs e cs ≤ ceiling ∧ part = cs) :
    Outcome e maxTokens cs (some (textOf part))

/-- **The sum of the estimates is counted exactly, or there is no text**: just when the ceiling is the
greatest one and the list costs more. -/
theorem assemble_counted (e : TokenEstimator) (maxTokens : UInt32) (cs : List Chunk) :
    Outcome e maxTokens cs (assemble? e maxTokens cs) := by
  rw [assemble?_eq]
  split
  · next h => exact .overflow h.1 h.2
  · next h =>
    refine .text _ (isLongest_affordable _ cs) fun hmax => ?_
    have hcosts := not_lt.mp fun hlt => h ⟨hmax, hlt⟩
    exact ⟨hcosts, affordable_of_costs_le (hmax ▸ hcosts)⟩

/-- A billionth of a character for each token. -/
def sampleFine : TokenEstimator where
  charsPerToken := 1e-9

/-- Two sections that cost the greatest number of tokens each are both admitted under it. -/
theorem not_always_counted : ¬ ∀ (e : TokenEstimator) (maxTokens : UInt32) (cs : List Chunk),
    assemble? e maxTokens cs ≠ none := by
  intro h
  exact h sampleFine 4294967295 [sampleFirst, sampleSecond] (by decide)

end Assembly
end Dossier
