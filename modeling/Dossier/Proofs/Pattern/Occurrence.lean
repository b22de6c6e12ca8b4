import Dossier.Pattern.Search
import Dossier.Proofs.Pattern.Takes
import Mathlib.Data.List.Basic
import Mathlib.Data.Fintype.Basic

/-!
# Where a pattern occurs

A search knows beforehand from which positions a pattern, and all that comes after it, can succeed.
These sets of positions are made from the end of the text to its start, one mark after the other, so
what a set `Tells` grows by one position with each push, and the end of a text is all that has to be
looked at. From the set of positions where the rest of a pattern succeeds each construct makes the
set of those that lead `Into` it: **`tells_ready`**, by induction on the pattern. So a pattern
occurs in a text exactly when it takes some part of it (`occursIn_iff`).
-/

set_option autoImplicit false

namespace Dossier.Pattern

variable {w : List Char} {p q : Pattern} {s : CharSet} {Q : Cursor → Prop}

/-! ## Leading into a set -/

/-- From the position the pattern leads to one of a set. -/
def Into (w : List Char) (p : Pattern) (Q : Cursor → Prop) (c : Cursor) : Prop :=
  ∃ d, Leads w p c d ∧ Q d

theorem into_test {test : Cursor → Bool} {c : Cursor}
    (htakes : ∀ u v t : List Char, Takes p u v t ↔ v = [] ∧ test (.between u t) = true)
    (hc : c.InText w) : Into w p Q c ↔ Q c ∧ test c = true := by
  unfold Into
  simp only [leads_test htakes hc, and_assoc, exists_eq_left]
  exact and_comm

theorem into_seq {c : Cursor} : Into w (.seq p q) Q c ↔ Into w p (Into w q Q) c := by
  unfold Into
  simp only [leads_seq]
  constructor
  · rintro ⟨d, ⟨e, hp, hq⟩, hd⟩
    exact ⟨e, hp, d, hq, hd⟩
  · rintro ⟨e, hp, d, hq, hd⟩
    exact ⟨d, ⟨e, hp, hq⟩, hd⟩

theorem into_alt {c : Cursor} : Into w (.alt p q) Q c ↔ Into w p Q c ∨ Into w q Q c := by
  simp only [Into, leads_alt, or_and_right, exists_or]

theorem into_opt {c : Cursor} (hc : c.InText w) : Into w (.opt p) Q c ↔ Into w p Q c ∨ Q c := by
  simp only [Into, leads_opt hc, or_and_right, exists_or, exists_eq_left]

theorem into_group {n : Nat} {c : Cursor} : Into w (.group n p) Q c ↔ Into w p Q c := by
  simp only [Into, leads_group]

theorem into_one_nil {u : List Char} (hw : u ++ [] = w) :
    ¬ Into w (.one s) Q (.between u []) := by
  rintro ⟨d, hlead, -⟩
  rw [leads_one ⟨u, [], hw, rfl⟩] at hlead
  cases hlead

theorem into_one_cons {u t : List Char} {x : Char} (hw : u ++ x :: t = w) :
    Into w (.one s) Q (.between u (x :: t)) ↔ Q (.between (u ++ [x]) t) ∧ s.has x = true := by
  have hstep : (Cursor.between u (x :: t)).step? s =
      if s.has x then some (.between (u ++ [x]) t) else none := by
    simp [Cursor.step?, Cursor.between]
  simp only [Into, leads_one ⟨u, x :: t, hw, rfl⟩, hstep]
  by_cases hx : s.has x = true <;> simp [hx]

theorem into_run_nil {u : List Char} (hw : u ++ [] = w) :
    Into w (.run s false) Q (.between u []) ↔ Q (.between u []) := by
  simp only [Into, leads_run_nil hw, exists_eq_left]

theorem into_run_cons {u t : List Char} {x : Char} (hw : u ++ x :: t = w) :
    Into w (.run s false) Q (.between u (x :: t)) ↔
      Q (.between u (x :: t)) ∨
        Into w (.run s false) Q (.between (u ++ [x]) t) ∧ s.has x = true := by
  simp only [Into, leads_run_cons hw, or_and_right, exists_or, exists_eq_left, and_assoc,
    exists_and_left]
  exact or_congr_right and_comm

theorem into_run_true {c : Cursor} :
    Into w (.run s true) Q c ↔ Into w (.one s) (Into w (.run s false) Q) c := by
  rw [← into_seq]
  simp only [Into, leads_run_true, leads_seq]

namespace Marks

/-! ## Marks -/

theorem size_push (m : Marks) (marked : Bool) : (m.push marked).size = m.size + 1 :=
  ByteArray.size_push

theorem has_push_size (m : Marks) (marked : Bool) : (m.push marked).has m.size = marked := by
  have hlt (b : UInt8) : m.bytes.size < (m.bytes.push b).size :=
    ByteArray.size_push ▸ Nat.lt_succ_self _
  have hnew (b : UInt8) : (m.bytes.push b).get m.bytes.size (hlt b) = b := Array.getElem_push_eq
  have hmark : (m.push marked).has m.size =
      ((m.bytes.push (if marked then 1 else 0)).get m.bytes.size (hlt _) != 0) := dif_pos (hlt _)
  rw [hmark, hnew]
  cases marked <;> rfl

theorem has_push_of_lt {m : Marks} {left : Nat} (h : left < m.size) (marked : Bool) :
    (m.push marked).has left = m.has left := by
  have hlt (b : UInt8) : left < (m.bytes.push b).size :=
    ByteArray.size_push ▸ Nat.lt_succ_of_lt h
  have hold (b : UInt8) : (m.bytes.push b).get left (hlt b) = m.bytes.get left h :=
    Array.getElem_push_lt h
  have hpushed : (m.push marked).has left =
      ((m.bytes.push (if marked then 1 else 0)).get left (hlt _) != 0) := dif_pos (hlt _)
  have hmark : m.has left = (m.bytes.get left h != 0) := dif_pos h
  rw [hpushed, hmark, hold]

theorem any_iff {m : Marks} : m.any = true ↔ ∃ left < m.size, m.has left = true := by
  unfold any
  rw [Nat.any_eq_finRange_any, List.any_eq_true]
  constructor
  · rintro ⟨⟨left, hlt⟩, -, h⟩
    exact ⟨left, hlt, h⟩
  · rintro ⟨left, hlt, h⟩
    exact ⟨⟨left, hlt⟩, List.mem_finRange _, h⟩

/-! ## What marks tell -/

/-- Of the last `n` positions of a text the marks stand at those of a set. -/
structure Tells (w : List Char) (Q : Cursor → Prop) (n : Nat) (m : Marks) : Prop where
  size_eq : m.size = n
  has_iff : ∀ u t, u ++ t = w → t.length < n → (m.has t.length = true ↔ Q (.between u t))

variable {P : Cursor → Prop} {m done : Marks} {n : Nat}

theorem tells_blank : blank.Tells w Q 0 := ⟨rfl, fun _ _ _ h => absurd h (Nat.not_lt_zero _)⟩

/-- With one more mark the position before is told of. -/
theorem Tells.push {u t : List Char} {marked : Bool} (h : m.Tells w Q t.length) (hw : u ++ t = w)
    (hnew : marked = true ↔ Q (.between u t)) : (m.push marked).Tells w Q (t.length + 1) where
  size_eq := by rw [size_push, h.size_eq]
  has_iff u' t' hw' hlt := by
    rcases Nat.lt_succ_iff_lt_or_eq.mp hlt with hlt | heq
    · rw [has_push_of_lt (by rwa [h.size_eq])]
      exact h.has_iff u' t' hw' hlt
    · obtain ⟨rfl, rfl⟩ := List.append_inj' (hw'.trans hw.symm) heq
      have hsize := has_push_size m marked
      rw [h.size_eq] at hsize
      rw [hsize]
      exact hnew

theorem Tells.congr (h : m.Tells w Q n) (hPQ : ∀ c, c.InText w → (P c ↔ Q c)) :
    m.Tells w P n where
  size_eq := h.size_eq
  has_iff u t hw hlt := (h.has_iff u t hw hlt).trans (hPQ _ ⟨u, t, hw, rfl⟩).symm

theorem Tells.has (h : m.Tells w Q (w.length + 1)) {u t : List Char} (hw : u ++ t = w) :
    m.has t.length = true ↔ Q (.between u t) := by
  refine h.has_iff u t hw (Nat.lt_succ_of_le ?_)
  rw [← hw, List.length_append]
  exact Nat.le_add_left _ _

/-- Marks that are made one before the other, each by the character behind its position. -/
theorem Tells.foldl {mark : Marks → Char → Bool}
    (hmark : ∀ u t x done, u ++ x :: t = w → done.Tells w P (t.length + 1) →
      (mark done x = true ↔ P (.between u (x :: t))))
    (u t : List Char) (hw : u ++ t = w) (h : done.Tells w P (t.length + 1)) :
    (u.reverse.foldl (fun done x => done.push (mark done x)) done).Tells w P (w.length + 1) := by
  induction u using List.reverseRecOn generalizing t done with
  | nil =>
    subst hw
    exact h
  | append_singleton u x ih =>
    rw [List.append_assoc, List.singleton_append] at hw
    rw [List.reverse_append, List.reverse_singleton, List.singleton_append, List.foldl_cons]
    exact ih (x :: t) hw (Tells.push h hw (hmark u t x done hw h))

theorem tells_before (h : m.Tells w Q (w.length + 1)) :
    (m.before s w.reverse).Tells w (Into w (.one s) Q) (w.length + 1) := by
  refine Tells.foldl ?_ w [] (List.append_nil w) ?_
  · intro u t x done hw hdone
    rw [hdone.size_eq, Nat.add_sub_cancel, into_one_cons hw, Bool.and_eq_true,
      h.has (u := u ++ [x]) (by rw [List.append_assoc, List.singleton_append, hw])]
  · refine tells_blank.push (List.append_nil w) ?_
    simp [into_one_nil (Q := Q) (s := s) (List.append_nil w)]

theorem tells_beforeRun (h : m.Tells w Q (w.length + 1)) :
    (m.beforeRun s w.reverse).Tells w (Into w (.run s false) Q) (w.length + 1) := by
  refine Tells.foldl ?_ w [] (List.append_nil w) ?_
  · intro u t x done hw hdone
    have hnext : u ++ [x] ++ t = w := by rw [List.append_assoc, List.singleton_append, hw]
    rw [hdone.size_eq, Nat.add_sub_cancel, into_run_cons hw, Bool.or_eq_true, Bool.and_eq_true,
      hdone.has_iff (u ++ [x]) t hnext (Nat.lt_succ_self _)]
    exact or_congr_left (h.has hw)
  · refine tells_blank.push (List.append_nil w) ?_
    rw [into_run_nil (List.append_nil w)]
    exact h.has (List.append_nil w)

/-- Where marks are kept, the neighbours of the position pass the test. -/
theorem tells_keepFrom {test : Option Char → Option Char → Bool}
    (h : m.Tells w Q (w.length + 1)) (u t : List Char) (hw : u ++ t = w)
    (hdone : done.Tells w (fun c => Q c ∧ test c.before c.rest.head? = true) t.length) :
    (keepFrom test m done t.head? u.reverse).Tells w
      (fun c => Q c ∧ test c.before c.rest.head? = true) (w.length + 1) := by
  induction u using List.reverseRecOn generalizing t done with
  | nil =>
    subst hw
    refine hdone.push (u := []) rfl ?_
    rw [hdone.size_eq, Bool.and_eq_true, h.has (u := []) rfl]
    rfl
  | append_singleton u x ih =>
    have hmark : (m.has t.length && test (some x) t.head?) = true ↔
        Q (.between (u ++ [x]) t) ∧ test (u ++ [x]).getLast? t.head? = true := by
      rw [Bool.and_eq_true, h.has hw, List.getLast?_concat]
    have hpushed := hdone.push hw hmark
    rw [List.append_assoc, List.singleton_append] at hw
    rw [List.reverse_append, List.reverse_singleton, List.singleton_append, keepFrom,
      hdone.size_eq]
    exact ih (x :: t) hw hpushed

theorem tells_keep {test : Option Char → Option Char → Bool} (h : m.Tells w Q (w.length + 1)) :
    (m.keep test w.reverse).Tells w (fun c => Q c ∧ test c.before c.rest.head? = true)
      (w.length + 1) :=
  tells_keepFrom h w [] (List.append_nil w) tells_blank

theorem fold_push (test : Nat → Bool) (n : Nat) :
    (n.fold (fun left _ m => m.push (test left)) blank).size = n ∧
      ∀ left < n, (n.fold (fun left _ m => m.push (test left)) blank).has left = test left := by
  induction n with
  | zero => exact ⟨rfl, fun left h => absurd h (Nat.not_lt_zero left)⟩
  | succ n ih =>
    obtain ⟨hsize, hhas⟩ := ih
    rw [Nat.fold_succ]
    refine ⟨by rw [size_push, hsize], fun left hlt => ?_⟩
    rcases Nat.lt_succ_iff_lt_or_eq.mp hlt with hlt | rfl
    · rw [has_push_of_lt (by rwa [hsize]), hhas left hlt]
    · have hnew := has_push_size (left.fold (fun left _ m => m.push (test left)) blank) (test left)
      rwa [hsize] at hnew

theorem tells_ofTest {test : Nat → Bool}
    (h : ∀ u t, u ++ t = w → (test t.length = true ↔ Q (.between u t))) :
    (ofTest w.length test).Tells w Q (w.length + 1) where
  size_eq := (fold_push test _).1
  has_iff u t hw hlt := by
    rw [ofTest, (fold_push test _).2 _ hlt]
    exact h u t hw

theorem tells_all : (all w.length).Tells w (fun _ => True) (w.length + 1) :=
  tells_ofTest fun _ _ _ => by simp

theorem tells_union {a b : Marks} (ha : a.Tells w P (w.length + 1))
    (hb : b.Tells w Q (w.length + 1)) :
    (a.union b).Tells w (fun c => P c ∨ Q c) (w.length + 1) := by
  unfold union
  rw [ha.size_eq, Nat.add_sub_cancel]
  refine tells_ofTest fun u t hw => ?_
  rw [Bool.or_eq_true, ha.has hw, hb.has hw]

theorem Tells.any_iff (h : m.Tells w Q (w.length + 1)) :
    m.any = true ↔ ∃ c, c.InText w ∧ Q c := by
  rw [Marks.any_iff, h.size_eq]
  constructor
  · rintro ⟨left, hlt, hmark⟩
    have hle : w.length - left ≤ w.length := Nat.sub_le _ _
    have hlength : (w.drop (w.length - left)).length = left := by
      rw [List.length_drop]
      omega
    rw [← hlength, h.has (List.take_append_drop _ w)] at hmark
    exact ⟨_, ⟨_, _, List.take_append_drop _ w, rfl⟩, hmark⟩
  · rintro ⟨c, ⟨u, t, hw, rfl⟩, hc⟩
    refine ⟨t.length, ?_, (h.has hw).mpr hc⟩
    rw [← hw, List.length_append]
    omega

end Marks

/-! ## Patterns -/

/-- **A pattern is ready where it leads to what comes after it**, and nowhere else. -/
theorem tells_ready {α : Type} (p : Pattern) {next : Step α}
    (h : next.ready.Tells w Q (w.length + 1)) :
    (Step.ofPattern w.reverse p next).ready.Tells w (Into w p Q) (w.length + 1) := by
  induction p generalizing Q next with
  | empty =>
    exact h.congr fun c hc =>
      (@into_test w .empty Q (fun _ => true) c takes_empty_iff hc).trans (and_iff_left rfl)
  | lineStart => exact (Marks.tells_keep h).congr fun c hc => into_test takes_lineStart_iff hc
  | wordEdge => exact (Marks.tells_keep h).congr fun c hc => into_test takes_wordEdge_iff hc
  | one s => exact Marks.tells_before h
  | run s atLeastOne =>
    have hrun := Marks.tells_beforeRun (s := s) h
    cases atLeastOne with
    | false => exact hrun
    | true => exact (Marks.tells_before hrun).congr fun c _ => into_run_true
  | seq p q ihp ihq => exact (ihp (ihq h)).congr fun c _ => into_seq
  | alt p q ihp ihq => exact (Marks.tells_union (ihp h) (ihq h)).congr fun c _ => into_alt
  | opt p ih => exact (Marks.tells_union (ih h) h).congr fun c hc => into_opt hc
  | group n p ih =>
    -- Only where the rest succeeds matters here, not how.
    have hinner : (⟨next.ready, fun d t => next.go d (t.leave n d)⟩ : Step α).ready.Tells w Q
      (w.length + 1) := h
    exact (ih hinner).congr fun c _ => into_group

/-- **A pattern occurs in a text when it takes a part of it**, between what stands around this
part. -/
theorem occursIn_iff (p : Pattern) (text : String) :
    occursIn p text = true ↔ ∃ u v t, u ++ (v ++ t) = text.toList ∧ Takes p u v t := by
  unfold occursIn
  dsimp only
  rw [(tells_ready p Marks.tells_all).any_iff]
  constructor
  · rintro ⟨-, -, -, ⟨u, v, t, hw, -, -, htakes⟩, -⟩
    exact ⟨u, v, t, hw, htakes⟩
  · rintro ⟨u, v, t, hw, htakes⟩
    exact ⟨_, ⟨u, v ++ t, hw, rfl⟩, _, ⟨u, v, t, hw, rfl, rfl, htakes⟩, trivial⟩

end Dossier.Pattern
