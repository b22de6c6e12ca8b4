import Dossier.Proofs.Text.Words
import Dossier.Text.Lowercase
import Mathlib

/-!
# What lower case keeps

Every character goes over into itself, or it is in a run of the table and goes over into the
character at its place in the run's lower case (`Lowers`). An interval that no run meets, neither
where it starts from nor where it leads, is kept as it is (`Lowers.mem_iff`). Blanks and the dollar
sign lie in such intervals: a text in lower case has them exactly where it had them before.

The mapping looks at the neighbours of a sigma. It does not see through a dollar sign, which has no
case and is not ignored either, so what stands before one and what stands behind it are mapped each
for itself (`lowerFrom_append_dollar`).
-/

set_option autoImplicit false

namespace Dossier.Text

/-! ## Runs -/

/-- The runs of the mapping: the letters of ASCII, the dotted capital `İ`, the sigma in either form,
and the table. -/
def allRuns : List CaseRun :=
  ⟨0x41, 0x5a, 1, 0x61⟩ :: ⟨0x130, 0x130, 1, 0x69⟩ :: ⟨0x130, 0x130, 1, 0x307⟩ ::
    ⟨0x3a3, 0x3a3, 1, 0x3c2⟩ :: ⟨0x3a3, 0x3a3, 1, 0x3c3⟩ :: caseRuns.toList

/-- What a character may become in lower case, in any context. -/
inductive Lowers (c : Char) : Char → Prop
  | same : Lowers c c
  | run (r : CaseRun) (hr : r ∈ allRuns) (hfirst : r.first ≤ c.toNat) (hlast : c.toNat ≤ r.last) :
    Lowers c (Char.ofNat (r.lower + (c.toNat - r.first)))

theorem lower?_eq_some {r : CaseRun} {n m : Nat} (h : r.lower? n = some m) :
    r.first ≤ n ∧ n ≤ r.last ∧ m = r.lower + (n - r.first) := by
  unfold CaseRun.lower? at h
  split at h
  · next hcovers =>
    simp only [Bool.and_eq_true, decide_eq_true_eq] at hcovers
    exact ⟨hcovers.1.1, hcovers.1.2, (Option.some_inj.mp h).symm⟩
  · cases h

theorem toLower_eq {c : Char} (hfirst : 0x41 ≤ c.toNat) (hlast : c.toNat ≤ 0x5a) :
    c.toLower = Char.ofNat (0x61 + (c.toNat - 0x41)) := by
  have hsum : c.toLower.toNat = (c.val + 32).toNat := by
    rw [Char.toLower,
      dif_pos ⟨UInt32.le_iff_toNat_le.mpr hfirst, UInt32.le_iff_toNat_le.mpr hlast⟩]
    rfl
  have hval : c.toNat = c.val.toNat := rfl
  have hstep : (32 : UInt32).toNat = 32 := rfl
  apply Char.toNat_inj.mp
  rw [hsum, UInt32.toNat_add, Char.toNat_ofNat, if_pos (by left; omega)]
  omega

theorem lowers_toLower (c : Char) : Lowers c c.toLower := by
  by_cases h : c.val ≥ 'A'.val ∧ c.val ≤ 'Z'.val
  · have hfirst : 0x41 ≤ c.toNat := UInt32.le_iff_toNat_le.mp h.1
    have hlast : c.toNat ≤ 0x5a := UInt32.le_iff_toNat_le.mp h.2
    rw [toLower_eq hfirst hlast]
    exact .run ⟨0x41, 0x5a, 1, 0x61⟩ List.mem_cons_self hfirst hlast
  · rw [Char.toLower, dif_neg h]
    exact .same

theorem lowers_of_mem_lowerChar {c d : Char} (h : d ∈ lowerChar c) : Lowers c d := by
  unfold lowerChar at h
  split at h
  · rw [List.mem_singleton.mp h]
    exact lowers_toLower c
  split at h
  · next hdotted =>
    rw [hdotted]
    rcases List.mem_cons.mp h with rfl | h
    · exact .run ⟨0x130, 0x130, 1, 0x69⟩ (by simp [allRuns]) (by decide) (by decide)
    · rw [List.mem_singleton.mp h]
      exact .run ⟨0x130, 0x130, 1, 0x307⟩ (by simp [allRuns]) (by decide) (by decide)
  · rw [List.mem_singleton.mp h]
    cases hlower : (caseRuns[caseRank c.toNat 0 caseRuns.size - 1]?).bind (·.lower? c.toNat) with
    | none => exact .same
    | some n =>
      obtain ⟨r, hr, hn⟩ := Option.bind_eq_some_iff.mp hlower
      obtain ⟨hfirst, hlast, rfl⟩ := lower?_eq_some hn
      have hmem : r ∈ caseRuns.toList := Array.mem_toList_iff.mpr (Array.mem_of_getElem? hr)
      exact .run r (by simp only [allRuns, List.mem_cons, hmem, or_true]) hfirst hlast

/-! ## Intervals without case -/

/-- Whether no run meets the interval, neither where it starts from nor where it leads. -/
def caseless (lo hi : Nat) : Bool :=
  0 < lo && allRuns.all fun r =>
    (r.last < lo || hi < r.first) && (r.lower + (r.last - r.first) < lo || hi < r.lower)

/-- **An interval without case is kept.** -/
theorem Lowers.mem_iff {lo hi : Nat} (h : caseless lo hi = true) {c d : Char} (hd : Lowers c d) :
    lo ≤ d.toNat ∧ d.toNat ≤ hi ↔ lo ≤ c.toNat ∧ c.toNat ≤ hi := by
  rw [caseless, Bool.and_eq_true, decide_eq_true_eq, List.all_eq_true] at h
  cases hd with
  | same => rfl
  | run r hr hfirst hlast =>
    have hmeets := h.2 r hr
    simp only [Bool.and_eq_true, Bool.or_eq_true, decide_eq_true_eq] at hmeets
    -- A code point that is none becomes zero, which is in no interval either.
    rw [Char.toNat_ofNat]
    split <;> omega

theorem Lowers.isBlank_eq {c d : Char} (h : Lowers c d) : isBlank d = isBlank c := by
  have hcaseless : ∀ i ∈ blankIntervals, caseless i.1 i.2 = true := by decide +kernel
  rw [Bool.eq_iff_iff, isBlank_iff, isBlank_iff]
  exact exists_congr fun i => and_congr_right fun hi => h.mem_iff (hcaseless i hi)

/-- A character without case is kept, and nothing else becomes it. -/
theorem Lowers.beq_eq {x : Char} (hx : caseless x.toNat x.toNat = true) {c d : Char}
    (h : Lowers c d) : (d == x) = (c == x) := by
  have hcode (y : Char) : y = x ↔ x.toNat ≤ y.toNat ∧ y.toNat ≤ x.toNat := by
    rw [← Char.toNat_inj]
    omega
  rw [Bool.eq_iff_iff, beq_iff_eq, beq_iff_eq, hcode, hcode]
  exact h.mem_iff hx

theorem Lowers.isDollar_eq {c d : Char} (h : Lowers c d) : (d == '$') = (c == '$') :=
  h.beq_eq (by decide +kernel)

theorem Lowers.notDollar_eq {c d : Char} (h : Lowers c d) : (d != '$') = (c != '$') :=
  congrArg Bool.not h.isDollar_eq

/-! ## Texts -/

/-- What one character becomes between others. -/
def lowerAmong (before : List Char) (c : Char) (rest : List Char) : List Char :=
  if c = 'Σ' then [if meetsCased before && !meetsCased rest then 'ς' else 'σ'] else lowerChar c

theorem lowerFrom_cons (before : List Char) (c : Char) (rest : List Char) :
    lowerFrom before (c :: rest) = lowerAmong before c rest ++ lowerFrom (c :: before) rest := rfl

theorem lowers_of_mem_lowerAmong {before rest : List Char} {c d : Char}
    (h : d ∈ lowerAmong before c rest) : Lowers c d := by
  unfold lowerAmong at h
  split at h
  · next hsigma =>
    rw [hsigma, List.mem_singleton.mp h]
    split
    · exact .run ⟨0x3a3, 0x3a3, 1, 0x3c2⟩ (by simp [allRuns]) (by decide) (by decide)
    · exact .run ⟨0x3a3, 0x3a3, 1, 0x3c3⟩ (by simp [allRuns]) (by decide) (by decide)
  · exact lowers_of_mem_lowerChar h

theorem length_lowerChar {c : Char} (h : c ≠ 'İ') : (lowerChar c).length = 1 := by
  unfold lowerChar
  split
  · exact List.length_singleton
  · exact List.length_singleton

theorem length_lowerAmong (before : List Char) (c : Char) (rest : List Char) :
    (lowerAmong before c rest).length = (lowerChar c).length := by
  unfold lowerAmong
  split
  · next hsigma =>
    rw [hsigma, length_lowerChar (by decide)]
    exact List.length_singleton
  · rfl

theorem length_lowerChar_pos (c : Char) : 0 < (lowerChar c).length := by
  unfold lowerChar
  split_ifs <;> exact Nat.succ_pos _

theorem toList_lowercase (s : String) : (lowercase s).toList = lowerFrom [] s.toList :=
  String.toList_ofList

section Kept

variable {p : Char → Bool} (hp : ∀ c d, Lowers c d → p d = p c)
include hp

theorem countP_lowerAmong (before : List Char) (c : Char) (rest : List Char) :
    (lowerAmong before c rest).countP p = if p c then (lowerChar c).length else 0 := by
  have hsame : ∀ d ∈ lowerAmong before c rest, p d = p c :=
    fun d hd => hp c d (lowers_of_mem_lowerAmong hd)
  split
  · next h =>
    rw [← length_lowerAmong before c rest, List.countP_eq_length]
    exact fun d hd => (hsame d hd).trans h
  · next h =>
    rw [List.countP_eq_zero]
    exact fun d hd => hsame d hd ▸ h

/-- How many characters with a property that is kept a text has in lower case. -/
theorem countP_lowerFrom (before cs : List Char) : (lowerFrom before cs).countP p =
    ((cs.filter p).map fun c => (lowerChar c).length).sum := by
  induction cs generalizing before with
  | nil => rfl
  | cons c cs ih =>
    rw [lowerFrom_cons, List.countP_append, countP_lowerAmong hp, ih, List.filter_cons]
    split
    · rw [List.map_cons, List.sum_cons]
    · rw [Nat.zero_add]

/-- **A property that is kept holds throughout a text in lower case if it did before.** -/
theorem forall_mem_lowerFrom (before cs : List Char) :
    (∀ d ∈ lowerFrom before cs, p d = false) ↔ ∀ c ∈ cs, p c = false := by
  induction cs generalizing before with
  | nil => rfl
  | cons c cs ih =>
    rw [lowerFrom_cons, List.forall_mem_append, ih, List.forall_mem_cons]
    refine and_congr_left fun _ => ⟨fun h => ?_, fun h d hd => ?_⟩
    · have hpos := length_lowerChar_pos c
      rw [← length_lowerAmong before c cs] at hpos
      obtain ⟨d, hd⟩ := List.exists_mem_of_length_pos hpos
      exact (hp c d (lowers_of_mem_lowerAmong hd)) ▸ h d hd
    · exact (hp c d (lowers_of_mem_lowerAmong hd)).trans h

end Kept

theorem lowercase_eq_empty_iff {s : String} : lowercase s = "" ↔ s = "" := by
  rw [← String.toList_eq_nil_iff, toList_lowercase, ← String.toList_eq_nil_iff]
  cases s.toList with
  | nil => exact iff_of_true rfl rfl
  | cons c cs =>
    have hpos := length_lowerChar_pos c
    rw [← length_lowerAmong [] c cs] at hpos
    rw [lowerFrom_cons, List.append_eq_nil_iff]
    exact iff_of_false (fun h => List.ne_nil_of_length_pos hpos h.1) (List.cons_ne_nil c cs)

theorem isBlank_lowercase (s : String) : (∀ d ∈ (lowercase s).toList, isBlank d = false) ↔
    ∀ c ∈ s.toList, isBlank c = false := by
  rw [toList_lowercase]
  exact forall_mem_lowerFrom (fun _ _ h => h.isBlank_eq) [] s.toList

/-! ## Dollar signs -/

theorem isCaseIgnorable_dollar : isCaseIgnorable '$' = false := by decide +kernel

theorem meetsCased_dollar (cs : List Char) : meetsCased ('$' :: cs) = false := by
  rw [meetsCased, List.dropWhile_cons_of_neg (by simp [isCaseIgnorable_dollar])]
  rfl

/-- What stands behind a dollar sign is not seen. -/
theorem meetsCased_append_dollar (xs ys : List Char) :
    meetsCased (xs ++ '$' :: ys) = meetsCased xs := by
  induction xs with
  | nil => exact meetsCased_dollar ys
  | cons x xs ih =>
    unfold meetsCased at ih ⊢
    rw [List.cons_append, List.dropWhile_cons, List.dropWhile_cons]
    split
    · exact ih
    · rfl

theorem lowerAmong_dollar_left (before older : List Char) (c : Char) (rest : List Char) :
    lowerAmong (before ++ '$' :: older) c rest = lowerAmong before c rest := by
  simp only [lowerAmong, meetsCased_append_dollar]

theorem lowerAmong_dollar_right (before : List Char) (c : Char) (xs ys : List Char) :
    lowerAmong before c (xs ++ '$' :: ys) = lowerAmong before c xs := by
  simp only [lowerAmong, meetsCased_append_dollar]

theorem lowerFrom_dollar_left (before older cs : List Char) :
    lowerFrom (before ++ '$' :: older) cs = lowerFrom before cs := by
  induction cs generalizing before with
  | nil => rfl
  | cons c cs ih =>
    rw [lowerFrom_cons, lowerFrom_cons, lowerAmong_dollar_left, ← List.cons_append, ih]

/-- **Lower case goes on afresh behind a dollar sign.** -/
theorem lowerFrom_append_dollar (before xs ys : List Char) :
    lowerFrom before (xs ++ '$' :: ys) = lowerFrom before xs ++ '$' :: lowerFrom [] ys := by
  induction xs generalizing before with
  | nil =>
    have hpiece : lowerAmong before '$' ys = ['$'] := rfl
    rw [List.nil_append, lowerFrom_cons, hpiece]
    exact congrArg ('$' :: ·) (lowerFrom_dollar_left [] before ys)
  | cons x xs ih =>
    rw [List.cons_append, lowerFrom_cons, lowerAmong_dollar_right, ih, lowerFrom_cons,
      List.append_assoc]

theorem lowerFrom_replicate_dollar (n : Nat) (cs : List Char) :
    lowerFrom [] (List.replicate n '$' ++ cs) = List.replicate n '$' ++ lowerFrom [] cs := by
  induction n with
  | zero => rfl
  | succ n ih =>
    have hfirst := lowerFrom_append_dollar [] [] (List.replicate n '$' ++ cs)
    rw [ih] at hfirst
    exact hfirst

end Dossier.Text
