import Dossier.EditDistance
import Mathlib.Order.Bounds.Basic

/-!
# Edit distance

`Edits n a b` says that `n` edits, one after another and anywhere in the text, turn `a` into `b`.
The distance that the rows compute is the least such number (`isLeast_distanceOf`), in three steps:

* the rows hold the entries of the whole table, each for two leading parts (`byRows_eq`);
* so many edits are enough (`edits_entry`), by the recurrence of the table;
* fewer are not (`Edits.entry_le`), because one edit, wherever it is made, changes no entry by more
  than one.

That the distance is a metric follows from the edits alone. A text that is left over when characters
are deleted from another is exactly as far from it as their lengths are apart, and so the two
shortcuts of `isNear` never decide against the distance.
-/

set_option autoImplicit false

namespace Dossier.EditDistance

/-! ## Edits -/

/-- One edit: a character is inserted, deleted or put in the place of another. -/
inductive Edit : List Char → List Char → Prop where
  | insertion (front back : List Char) (c : Char) : Edit (front ++ back) (front ++ c :: back)
  | deletion (front back : List Char) (c : Char) : Edit (front ++ c :: back) (front ++ back)
  | substitution (front back : List Char) (c d : Char) :
      Edit (front ++ c :: back) (front ++ d :: back)

/-- That so many edits, one after another, turn a text into another. -/
inductive Edits : Nat → List Char → List Char → Prop where
  | refl (a : List Char) : Edits 0 a a
  | step {n : Nat} {a b c : List Char} (first : Edit a b) (rest : Edits n b c) : Edits (n + 1) a c

variable {m n : Nat} {a b c : List Char}

theorem Edit.symm (h : Edit a b) : Edit b a := by
  cases h with
  | insertion front back c => exact .deletion front back c
  | deletion front back c => exact .insertion front back c
  | substitution front back c d => exact .substitution front back d c

theorem Edit.cons (x : Char) (h : Edit a b) : Edit (x :: a) (x :: b) := by
  cases h with
  | insertion front back c => exact .insertion (x :: front) back c
  | deletion front back c => exact .deletion (x :: front) back c
  | substitution front back c d => exact .substitution (x :: front) back c d

theorem Edit.reverse (h : Edit a b) : Edit a.reverse b.reverse := by
  cases h with
  | insertion front back c => simpa using Edit.insertion back.reverse front.reverse c
  | deletion front back c => simpa using Edit.deletion back.reverse front.reverse c
  | substitution front back c d => simpa using Edit.substitution back.reverse front.reverse c d

theorem Edit.length_le (h : Edit a b) : a.length ≤ b.length + 1 := by
  cases h <;> simp only [List.length_append, List.length_cons] <;> omega

theorem Edits.trans (hab : Edits m a b) (hbc : Edits n b c) : Edits (m + n) a c := by
  induction hab with
  | refl => rwa [Nat.zero_add]
  | step first _ ih =>
    rw [Nat.add_right_comm]
    exact .step first (ih hbc)

theorem Edits.symm (h : Edits n a b) : Edits n b a := by
  induction h with
  | refl a => exact .refl a
  | step first _ ih => exact ih.trans (.step first.symm (.refl _))

theorem Edits.cons (x : Char) (h : Edits n a b) : Edits n (x :: a) (x :: b) := by
  induction h with
  | refl a => exact .refl _
  | step first _ ih => exact .step (first.cons x) ih

theorem Edits.reverse (h : Edits n a b) : Edits n a.reverse b.reverse := by
  induction h with
  | refl a => exact .refl _
  | step first _ ih => exact .step first.reverse ih

theorem Edits.lesser (hm : Edits m a b) (hn : Edits n a b) : Edits (min m n) a b := by
  rcases Nat.le_total m n with h | h
  · rwa [Nat.min_eq_left h]
  · rwa [Nat.min_eq_right h]

theorem edits_reverse : Edits n a.reverse b.reverse ↔ Edits n a b := by
  refine ⟨fun h => ?_, Edits.reverse⟩
  simpa using h.reverse

theorem edits_comm : Edits n a b ↔ Edits n b a := ⟨Edits.symm, Edits.symm⟩

theorem Edits.length_le (h : Edits n a b) : a.length ≤ b.length + n := by
  induction h with
  | refl a => exact Nat.le_refl _
  | step first _ ih =>
    have hfirst := first.length_le
    omega

theorem edits_zero : Edits 0 a b ↔ a = b := by
  constructor
  · intro h
    cases h
    rfl
  · intro h
    subst h
    exact .refl a

/-- Inserting what is missing turns a text into one that holds its characters in order. -/
theorem edits_of_sublist (h : a.Sublist b) : Edits (b.length - a.length) a b := by
  induction h with
  | slnil => exact .refl []
  | @cons a b x hab ih =>
    have hlength : (x :: b).length - a.length = b.length - a.length + 1 := by
      have hle := hab.length_le
      rw [List.length_cons]
      omega
    rw [hlength]
    exact .step (.insertion [] a x) (ih.cons x)
  | cons_cons x _ ih =>
    rw [List.length_cons, List.length_cons, Nat.add_sub_add_right]
    exact ih.cons x

/-! ## The table -/

/-- The entry of the table for two leading parts, both written backwards. -/
def entry : List Char → List Char → Nat
  | [], q => q.length
  | c :: p, [] => p.length + 1
  | c :: p, s :: q =>
    min (min (entry p q + if c = s then 0 else 1) (entry p (s :: q) + 1)) (entry (c :: p) q + 1)

@[simp] theorem entry_nil_left (q : List Char) : entry [] q = q.length := by
  rw [entry]

@[simp] theorem entry_nil_right (p : List Char) : entry p [] = p.length := by
  cases p <;> simp [entry]

theorem entry_cons_cons (c s : Char) (p q : List Char) : entry (c :: p) (s :: q) =
    min (min (entry p q + if c = s then 0 else 1) (entry p (s :: q) + 1))
      (entry (c :: p) q + 1) := by
  rw [entry]

theorem entry_self (a : List Char) : entry a a = 0 := by
  induction a with
  | nil => rw [entry_nil_left, List.length_nil]
  | cons c a ih => simp [entry_cons_cons, ih]

theorem entry_le_max (p q : List Char) : entry p q ≤ max p.length q.length := by
  fun_induction entry p q with
  | case1 q => simp
  | case2 c p => simp
  | case3 c p s q ih _ _ =>
    simp only [List.length_cons]
    split <;> omega

/-! ### So many edits are enough -/

theorem edits_entry (p q : List Char) : Edits (entry p q) p q := by
  fun_induction entry p q with
  | case1 q => exact edits_of_sublist (List.nil_sublist q)
  | case2 c p => exact (edits_of_sublist (List.nil_sublist (c :: p))).symm
  | case3 c p s q hsubstitute hdelete hinsert =>
    have hsubstitute : Edits (entry p q + if c = s then 0 else 1) (c :: p) (s :: q) := by
      split
      · next heq => exact heq ▸ hsubstitute.cons c
      · exact (hsubstitute.cons c).trans (.step (.substitution [] q c s) (.refl _))
    have hdelete : Edits (entry p (s :: q) + 1) (c :: p) (s :: q) :=
      .step (.deletion [] p c) hdelete
    have hinsert : Edits (entry (c :: p) q + 1) (c :: p) (s :: q) :=
      .step (.insertion [] (c :: p) s) (hinsert.cons s)
    exact (hsubstitute.lesser hdelete).lesser hinsert

/-! ### Fewer edits are not -/

theorem entry_cons_left_le (c : Char) (p q : List Char) : entry (c :: p) q ≤ entry p q + 1 := by
  cases q with
  | nil => simp
  | cons s q =>
    rw [entry_cons_cons]
    omega

theorem entry_cons_right_le (s : Char) (p q : List Char) : entry p (s :: q) ≤ entry p q + 1 := by
  cases p with
  | nil => simp
  | cons c p =>
    rw [entry_cons_cons]
    omega

theorem entry_le_cons_left (c : Char) (p q : List Char) : entry p q ≤ entry (c :: p) q + 1 := by
  induction q with
  | nil =>
    rw [entry_nil_right, entry_nil_right, List.length_cons]
    omega
  | cons s q ih =>
    -- Where `c` took part in the last step, `s` is inserted instead.
    have hright := entry_cons_right_le s p q
    rw [entry_cons_cons]
    omega

theorem entry_substitute_le (c d : Char) (p q : List Char) :
    entry (c :: p) q ≤ entry (d :: p) q + 1 := by
  induction q with
  | nil => simp
  | cons s q ih =>
    rw [entry_cons_cons, entry_cons_cons]
    split <;> split <;> omega

/-- What changes entries by at most one also does so further into the text. -/
theorem entry_cons_le_cons (x : Char) (h : ∀ q, entry a q ≤ entry b q + 1) (q : List Char) :
    entry (x :: a) q ≤ entry (x :: b) q + 1 := by
  induction q with
  | nil =>
    have hnil := h []
    rw [entry_nil_right, entry_nil_right] at hnil
    rw [entry_nil_right, entry_nil_right, List.length_cons, List.length_cons]
    omega
  | cons s q ih =>
    -- Each of the three ways into the entry changes by at most one.
    have hq := h q
    have hsq := h (s :: q)
    rw [entry_cons_cons, entry_cons_cons]
    omega

/-- **One edit changes no entry by more than one.** -/
theorem Edit.entry_le (h : Edit a b) (q : List Char) : entry a q ≤ entry b q + 1 := by
  cases h with
  | insertion front back c =>
    induction front generalizing q with
    | nil => exact entry_le_cons_left c back q
    | cons x front ih => exact entry_cons_le_cons x ih q
  | deletion front back c =>
    induction front generalizing q with
    | nil => exact entry_cons_left_le c back q
    | cons x front ih => exact entry_cons_le_cons x ih q
  | substitution front back c d =>
    induction front generalizing q with
    | nil => exact entry_substitute_le c d back q
    | cons x front ih => exact entry_cons_le_cons x ih q

theorem Edits.entry_le (h : Edits n a b) : entry a b ≤ n := by
  induction h with
  | refl a => exact Nat.le_of_eq (entry_self a)
  | step first _ ih => exact Nat.le_trans (first.entry_le _) (Nat.succ_le_succ ih)

theorem isLeast_entry (p q : List Char) : IsLeast {n | Edits n p q} (entry p q) :=
  ⟨edits_entry p q, fun _ h => h.entry_le⟩

/-! ## The rows -/

/-- The entries along the rest of a row, behind the column of `q`. -/
def cells (p : List Char) : List Char → List Char → List Nat
  | _, [] => []
  | q, s :: rest => entry p (s :: q) :: cells p (s :: q) rest

/-- The row of the table for a leading part `p`, written backwards. -/
def row (short p : List Char) : List Nat := entry p [] :: cells p [] short

theorem rowFrom_cells (c : Char) (p q rest : List Char) :
    rowFrom c (entry (c :: p) q) (entry p q) rest (cells p q rest) = cells (c :: p) q rest := by
  induction rest generalizing q with
  | nil => rfl
  | cons s rest ih =>
    rw [cells, cells, rowFrom, ← entry_cons_cons, ih]

theorem nextRow_row (short p : List Char) (c : Char) :
    nextRow short (row short p) c = row short (c :: p) := by
  have hfirst : entry p [] + 1 = entry (c :: p) [] := by simp
  rw [row, row, nextRow, hfirst, rowFrom_cells]

theorem foldl_nextRow (short long p : List Char) :
    long.foldl (nextRow short) (row short p) = row short (long.reverse ++ p) := by
  induction long generalizing p with
  | nil => rfl
  | cons c long ih =>
    rw [List.foldl_cons, nextRow_row, ih, List.reverse_cons, List.append_assoc]
    rfl

theorem cells_nil (q rest : List Char) :
    cells [] q rest = List.range' (q.length + 1) rest.length := by
  induction rest generalizing q with
  | nil => rfl
  | cons s rest ih =>
    rw [cells, ih, entry_nil_left, List.length_cons, List.length_cons, List.range'_succ]

theorem row_nil (short : List Char) : row short [] = List.range (short.length + 1) := by
  rw [row, cells_nil, entry_nil_left, List.range_eq_range', List.range'_succ]
  rfl

theorem getLast?_cells (p q rest : List Char) :
    (entry p q :: cells p q rest).getLast? = some (entry p (rest.reverse ++ q)) := by
  induction rest generalizing q with
  | nil => rfl
  | cons s rest ih =>
    rw [cells, List.getLast?_cons_cons, ih, List.reverse_cons, List.append_assoc]
    rfl

/-- **The last entry of the last row is the one for both texts as a whole.** -/
theorem byRows_eq (long short : List Char) :
    byRows long short = entry long.reverse short.reverse := by
  rw [byRows, ← row_nil, foldl_nextRow, row, getLast?_cells, List.append_nil, List.append_nil]
  rfl

theorem isLeast_byRows (a b : List Char) : IsLeast {n | Edits n a b} (byRows a b) := by
  have h := isLeast_entry a.reverse b.reverse
  simp only [edits_reverse] at h
  rwa [byRows_eq]

/-- **The distance is the least number of edits.** -/
theorem isLeast_distanceOf (a b : List Char) : IsLeast {n | Edits n a b} (distanceOf a b) := by
  unfold distanceOf
  split
  · exact isLeast_byRows a b
  · simp only [edits_comm (a := a)]
    exact isLeast_byRows b a

/-! ## The distance of two texts -/

variable {s t : String}

theorem isLeast_distance (s t : String) :
    IsLeast {n | Edits n s.toList t.toList} (distance s t) :=
  isLeast_distanceOf s.toList t.toList

theorem edits_distance (s t : String) : Edits (distance s t) s.toList t.toList :=
  (isLeast_distance s t).1

theorem distance_le (h : Edits n s.toList t.toList) : distance s t ≤ n :=
  (isLeast_distance s t).2 h

theorem distance_comm (s t : String) : distance s t = distance t s :=
  Nat.le_antisymm (distance_le (edits_distance t s).symm) (distance_le (edits_distance s t).symm)

theorem distance_eq_zero : distance s t = 0 ↔ s = t := by
  constructor
  · intro h
    have hedits := edits_distance s t
    rw [h, edits_zero] at hedits
    exact String.toList_injective hedits
  · intro h
    subst h
    exact Nat.le_zero.mp (distance_le (.refl _))

theorem distance_triangle (s t u : String) : distance s u ≤ distance s t + distance t u :=
  distance_le ((edits_distance s t).trans (edits_distance t u))

theorem gap_eq (m n : Nat) : gap m n = max m n - min m n := by
  unfold gap
  omega

theorem gap_le_distance (s t : String) : gap s.length t.length ≤ distance s t := by
  have hle := (edits_distance s t).length_le
  have hge := (edits_distance s t).symm.length_le
  rw [String.length_toList, String.length_toList] at hle hge
  unfold gap
  omega

theorem distance_le_max (s t : String) : distance s t ≤ max s.length t.length := by
  have h := distance_le (edits_entry s.toList t.toList)
  have hmax := entry_le_max s.toList t.toList
  rw [String.length_toList, String.length_toList] at hmax
  exact Nat.le_trans h hmax

/-- A text inside another is as far from it as their lengths are apart. -/
theorem distance_of_holds (h : Text.holds s t = true) : distance s t = gap s.length t.length := by
  have hsublist := (Text.holds_iff.mp h).sublist
  have hedits := (edits_of_sublist hsublist).symm
  have hle := hsublist.length_le
  rw [String.length_toList, String.length_toList] at hedits hle
  refine Nat.le_antisymm (Nat.le_trans (distance_le hedits) ?_) (gap_le_distance s t)
  unfold gap
  omega

/-- That a number for every two texts is their edit distance: the least number of edits, and with
that a metric, within the bounds that the lengths give. -/
structure IsEditDistance (d : String → String → Nat) : Prop where
  least : ∀ s t, IsLeast {n | Edits n s.toList t.toList} (d s t)
  symm : ∀ s t, d s t = d t s
  eq_zero_iff : ∀ s t, d s t = 0 ↔ s = t
  gap_le : ∀ s t : String, max s.length t.length - min s.length t.length ≤ d s t
  le_longer : ∀ s t : String, d s t ≤ max s.length t.length
  triangle : ∀ s t u, d s u ≤ d s t + d t u

/-- **The distance along two rows is the edit distance.** -/
theorem isEditDistance_distance : IsEditDistance distance where
  least := isLeast_distance
  symm := distance_comm
  eq_zero_iff _ _ := distance_eq_zero
  gap_le s t := gap_eq s.length t.length ▸ gap_le_distance s t
  le_longer := distance_le_max
  triangle := distance_triangle

example : distance "kitten" "sitting" = 3 := by decide

/-! ## Near texts -/

/-- The shortcuts only save the distance. -/
theorem isNear_iff {bound : Nat} : isNear s t bound = true ↔ distance s t ≤ bound := by
  unfold isNear
  split
  · next hgap =>
    have hle := gap_le_distance s t
    exact iff_of_false Bool.false_ne_true (by omega)
  · next hgap =>
    split
    · next hholds =>
      have hdistance : distance s t = gap s.length t.length := by
        rcases Bool.or_eq_true_iff.mp hholds with h | h
        · exact distance_of_holds h
        · rw [distance_comm, distance_of_holds h, gap_eq, gap_eq, Nat.max_comm, Nat.min_comm]
      exact iff_of_true rfl (by omega)
    · rw [decide_eq_true_eq]

/-- **Two texts are near when their distance is within the bound**; so it does not matter which comes
first, and a greater bound loses none. -/
theorem isNear_exact (s t : String) :
    (∀ bound, isNear s t bound = true ↔ distance s t ≤ bound) ∧ isNear s t = isNear t s ∧
      Monotone (isNear s t) := by
  refine ⟨fun _ => isNear_iff, funext fun bound => ?_, fun bound bound' hle hnear => ?_⟩
  · rw [Bool.eq_iff_iff, isNear_iff, isNear_iff, distance_comm]
  · exact isNear_iff.mpr (Nat.le_trans (isNear_iff.mp hnear) hle)

end Dossier.EditDistance
