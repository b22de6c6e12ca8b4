import Dossier.Text.Alphanumeric
import Dossier.Text.Blank
import Dossier.Text.Word
import Mathlib.Data.List.Basic
import Mathlib.Data.List.TakeWhile

/-!
# Blanks and words

Words split at a blank (`blankSplit_append_cons`), and all else about them follows: blanks at the
ends do not matter, and a text is one word at most if it has no other blanks. No character of a word
is blank itself.
-/

set_option autoImplicit false

namespace Dossier.Text

/-! ## Blanks -/

/-- The code points of the blanks, as intervals. -/
def blankIntervals : List (Nat × Nat) :=
  [(9, 13), (32, 32), (0x85, 0x85), (0xa0, 0xa0), (0x1680, 0x1680), (0x2000, 0x200a),
    (0x2028, 0x2028), (0x2029, 0x2029), (0x202f, 0x202f), (0x205f, 0x205f), (0x3000, 0x3000)]

theorem isBlank_iff {c : Char} :
    isBlank c = true ↔ ∃ i ∈ blankIntervals, i.1 ≤ c.toNat ∧ c.toNat ≤ i.2 := by
  simp only [isBlank, blankIntervals, Bool.or_eq_true, Bool.and_eq_true, decide_eq_true_eq,
    beq_iff_eq, List.exists_mem_cons_iff, List.not_mem_nil, false_and, exists_false, or_false]
  omega

/-- A property that no blank has. -/
theorem isBlank_eq_false_of {p : Char → Bool}
    (hblanks : ∀ i ∈ blankIntervals, ∀ k < i.2 + 1 - i.1, p (Char.ofNat (i.1 + k)) = false)
    {c : Char} (h : p c = true) : isBlank c = false := by
  refine Bool.eq_false_iff.mpr fun hblank => ?_
  obtain ⟨i, hi, hfirst, hlast⟩ := isBlank_iff.mp hblank
  have hnone := hblanks i hi (c.toNat - i.1) (by omega)
  rw [Nat.add_sub_cancel' hfirst, Char.ofNat_toNat, h] at hnone
  cases hnone

theorem isBlank_of_isWord {c : Char} (h : isWord c = true) : isBlank c = false :=
  isBlank_eq_false_of (by decide +kernel) h

theorem isBlank_of_isAlphanumeric {c : Char} (h : isAlphanumeric c = true) : isBlank c = false :=
  isBlank_eq_false_of (by decide +kernel) h

/-! ## Words -/

section Lists

variable {xs ys : List Char}

/-- **Words split at a blank.** -/
theorem blankSplit_append_cons (xs ys : List Char) {c : Char} (hc : isBlank c = true) :
    blankSplit (xs ++ c :: ys) = blankSplit xs ++ blankSplit ys := by
  unfold blankSplit
  rw [List.splitOnP_append_cons xs ys hc, List.filter_append]

theorem blankSplit_blank_append (hxs : ∀ c ∈ xs, isBlank c = true) (ys : List Char) :
    blankSplit (xs ++ ys) = blankSplit ys := by
  induction xs with
  | nil => rfl
  | cons c xs ih =>
    rw [List.forall_mem_cons] at hxs
    exact (blankSplit_append_cons [] (xs ++ ys) hxs.1).trans (ih hxs.2)

theorem blankSplit_append_blank (xs : List Char) (hys : ∀ c ∈ ys, isBlank c = true) :
    blankSplit (xs ++ ys) = blankSplit xs := by
  cases ys with
  | nil => rw [List.append_nil]
  | cons c ys =>
    rw [List.forall_mem_cons] at hys
    have hnone : blankSplit ys = [] := by
      rw [← List.append_nil ys, blankSplit_blank_append hys.2]
      rfl
    rw [blankSplit_append_cons xs ys hys.1, hnone, List.append_nil]

/-- Without blanks there is one word, or nothing. -/
theorem blankSplit_eq_filter (h : ∀ c ∈ xs, isBlank c = false) :
    blankSplit xs = [xs].filter (!·.isEmpty) := by
  rw [blankSplit, List.splitOnP_eq_singleton h]

/-- Trimming only takes blanks off the ends. -/
theorem exists_trimBlanks (cs : List Char) : ∃ front back, cs = front ++ trimBlanks cs ++ back ∧
    (∀ c ∈ front, isBlank c = true) ∧ ∀ c ∈ back, isBlank c = true := by
  refine ⟨cs.takeWhile isBlank, ((cs.dropWhile isBlank).reverse.takeWhile isBlank).reverse,
    ?_, fun c hc => List.mem_takeWhile_imp hc,
    fun c hc => List.mem_takeWhile_imp (List.mem_reverse.mp hc)⟩
  have hback : trimBlanks cs ++ ((cs.dropWhile isBlank).reverse.takeWhile isBlank).reverse =
      cs.dropWhile isBlank := by
    rw [trimBlanks, dropRight, ← List.reverse_append, List.takeWhile_append_dropWhile,
      List.reverse_reverse]
  rw [List.append_assoc, hback, List.takeWhile_append_dropWhile]

theorem blankSplit_trimBlanks (cs : List Char) : blankSplit (trimBlanks cs) = blankSplit cs := by
  obtain ⟨front, back, hcs, hfront, hback⟩ := exists_trimBlanks cs
  conv_rhs => rw [hcs]
  rw [blankSplit_append_blank _ hback, blankSplit_blank_append hfront]

end Lists

theorem words_of_not_blank {s : String} (h : ∀ c ∈ s.toList, isBlank c = false) (hs : s ≠ "") :
    words s = [s] := by
  have hsome : s.toList.isEmpty = false :=
    List.isEmpty_eq_false_iff.mpr fun hnil => hs (String.toList_eq_nil_iff.mp hnil)
  rw [words, blankSplit_eq_filter h, List.filter_cons_of_pos (by rw [hsome]; rfl), List.filter_nil,
    List.map_singleton, String.ofList_toList]

theorem words_trim (s : String) : words (trim s) = words s := by
  rw [words, trim, String.toList_ofList, blankSplit_trimBlanks, words]

/-- A text has one word at most if there are no blanks in it but at the ends. -/
theorem length_words_le_one {s : String} (h : ∀ c ∈ (trim s).toList, isBlank c = false) :
    (words s).length ≤ 1 := by
  rw [← words_trim, words, List.length_map, blankSplit_eq_filter h]
  exact List.length_filter_le _ _

end Dossier.Text
