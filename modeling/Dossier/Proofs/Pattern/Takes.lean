import Dossier.Pattern.Whole
import Mathlib.Data.List.Basic

/-!
# What a pattern takes

`Takes` says, construct by construct, which texts a pattern can take between what stands before and
what stands after. `Leads` says the same of positions in one text: between the first and the second
stands something that the pattern takes. A position is known by how much of the text follows it.
-/

set_option autoImplicit false

namespace Dossier.Pattern

/-- A pattern can take the text `v` when `u` stands before it and `t` after it. -/
inductive Takes : Pattern → List Char → List Char → List Char → Prop where
  | empty (u t : List Char) : Takes .empty u [] t
  | lineStart {u t : List Char} (h : startsLine u.getLast? = true) : Takes .lineStart u [] t
  | wordEdge {u t : List Char} (h : isWordEdge u.getLast? t.head? = true) : Takes .wordEdge u [] t
  | one {s : CharSet} {u t : List Char} {x : Char} (h : s.has x = true) : Takes (.one s) u [x] t
  | run {s : CharSet} {atLeastOne : Bool} {u v t : List Char} (h : ∀ x ∈ v, s.has x = true)
      (hv : atLeastOne = true → v ≠ []) : Takes (.run s atLeastOne) u v t
  | seq {p q : Pattern} {u v w t : List Char} (hp : Takes p u v (w ++ t))
      (hq : Takes q (u ++ v) w t) : Takes (.seq p q) u (v ++ w) t
  | first {p q : Pattern} {u v t : List Char} (h : Takes p u v t) : Takes (.alt p q) u v t
  | second {p q : Pattern} {u v t : List Char} (h : Takes q u v t) : Takes (.alt p q) u v t
  | present {p : Pattern} {u v t : List Char} (h : Takes p u v t) : Takes (.opt p) u v t
  | absent {p : Pattern} (u t : List Char) : Takes (.opt p) u [] t
  | group {n : Nat} {p : Pattern} {u v t : List Char} (h : Takes p u v t) : Takes (.group n p) u v t

/-! ## Positions -/

/-- The position between two parts of a text. -/
def Cursor.between (u t : List Char) : Cursor := ⟨u.getLast?, t, t.length⟩

/-- The position lies in the text. -/
def Cursor.InText (w : List Char) (c : Cursor) : Prop := ∃ u t, u ++ t = w ∧ c = .between u t

/-- Between two positions of a text stands something that the pattern can take there. -/
def Leads (w : List Char) (p : Pattern) (c d : Cursor) : Prop :=
  ∃ u v t, u ++ (v ++ t) = w ∧ c = .between u (v ++ t) ∧ d = .between (u ++ v) t ∧ Takes p u v t

variable {w : List Char} {p q : Pattern} {s : CharSet} {c d e : Cursor}

theorem between_inj {u u' t t' : List Char} (h : u ++ t = u' ++ t')
    (heq : Cursor.between u t = Cursor.between u' t') : u = u' ∧ t = t' := by
  have ht : t = t' := congrArg Cursor.rest heq
  subst ht
  exact ⟨List.append_cancel_right h, rfl⟩

theorem eq_of_left_eq (hc : c.InText w) (hd : d.InText w) (h : c.left = d.left) : c = d := by
  obtain ⟨u, t, hw, rfl⟩ := hc
  obtain ⟨u', t', hw', rfl⟩ := hd
  obtain ⟨rfl, rfl⟩ := List.append_inj' (hw.trans hw'.symm) h
  rfl

theorem leads_between {u r : List Char} (hw : u ++ r = w) :
    Leads w p (.between u r) d ↔ ∃ v t, r = v ++ t ∧ d = .between (u ++ v) t ∧ Takes p u v t := by
  constructor
  · rintro ⟨u', v, t, hw', hc, hd, h⟩
    obtain ⟨rfl, rfl⟩ := between_inj (hw.trans hw'.symm) hc
    exact ⟨v, t, rfl, hd, h⟩
  · rintro ⟨v, t, rfl, hd, h⟩
    exact ⟨u, v, t, hw, rfl, hd, h⟩

theorem Leads.inText_right (h : Leads w p c d) : d.InText w := by
  obtain ⟨u, v, t, hw, -, rfl, -⟩ := h
  exact ⟨u ++ v, t, by rw [List.append_assoc, hw], rfl⟩

theorem Leads.left_le (h : Leads w p c d) : d.left ≤ c.left := by
  obtain ⟨u, v, t, -, rfl, rfl, -⟩ := h
  simp [Cursor.between]

/-! ## One construct at a time -/

/-- A construct that only looks at a position leads to it, if it passes. -/
theorem leads_test {test : Cursor → Bool}
    (htakes : ∀ u v t : List Char,
      Takes p u v t ↔ v = [] ∧ test (.between u t) = true) (hc : c.InText w) :
    Leads w p c d ↔ d = c ∧ test c = true := by
  obtain ⟨u, r, hw, rfl⟩ := hc
  rw [leads_between hw]
  constructor
  · rintro ⟨v, t, rfl, rfl, h⟩
    obtain ⟨rfl, htest⟩ := (htakes _ _ _).mp h
    rw [List.append_nil, List.nil_append]
    exact ⟨rfl, htest⟩
  · rintro ⟨rfl, htest⟩
    exact ⟨[], r, rfl, by rw [List.append_nil], (htakes _ _ _).mpr ⟨rfl, htest⟩⟩

theorem takes_empty_iff (u v t : List Char) : Takes .empty u v t ↔ v = [] ∧ true = true := by
  constructor
  · intro h
    cases h with
    | empty => exact ⟨rfl, rfl⟩
  · rintro ⟨rfl, -⟩
    exact .empty u t

theorem takes_lineStart_iff (u v t : List Char) :
    Takes .lineStart u v t ↔ v = [] ∧ (Cursor.between u t).atLineStart = true := by
  constructor
  · intro h
    cases h with
    | lineStart h => exact ⟨rfl, h⟩
  · rintro ⟨rfl, h⟩
    exact .lineStart h

theorem takes_wordEdge_iff (u v t : List Char) :
    Takes .wordEdge u v t ↔ v = [] ∧ (Cursor.between u t).atWordEdge = true := by
  constructor
  · intro h
    cases h with
    | wordEdge h => exact ⟨rfl, h⟩
  · rintro ⟨rfl, h⟩
    exact .wordEdge h

theorem leads_one (hc : c.InText w) : Leads w (.one s) c d ↔ c.step? s = some d := by
  obtain ⟨u, r, hw, rfl⟩ := hc
  rw [leads_between hw]
  constructor
  · rintro ⟨v, t, rfl, rfl, h⟩
    cases h with
    | one hx => simp [Cursor.step?, Cursor.between, hx]
  · intro h
    cases r with
    | nil => simp [Cursor.step?, Cursor.between] at h
    | cons x t =>
      by_cases hx : s.has x = true
      · refine ⟨[x], t, rfl, ?_, .one hx⟩
        simp only [Cursor.step?, Cursor.between, hx, if_true, Option.some.injEq] at h
        simp [Cursor.between, ← h]
      · simp [Cursor.step?, Cursor.between, hx] at h

theorem leads_seq : Leads w (.seq p q) c d ↔ ∃ e, Leads w p c e ∧ Leads w q e d := by
  constructor
  · rintro ⟨u, v, t, hw, rfl, rfl, h⟩
    cases h with
    | @seq _ _ _ x y _ hp hq =>
      rw [List.append_assoc] at hw
      refine ⟨.between (u ++ x) (y ++ t), ⟨u, x, y ++ t, hw, ?_, rfl, hp⟩,
        ⟨u ++ x, y, t, ?_, rfl, ?_, hq⟩⟩
      · rw [List.append_assoc]
      · rw [List.append_assoc, hw]
      · rw [List.append_assoc]
  · rintro ⟨e, ⟨u, x, r, hw, rfl, rfl, hp⟩, hq⟩
    obtain ⟨y, t, rfl, rfl, htakes⟩ := (leads_between (by rw [List.append_assoc, hw])).mp hq
    refine ⟨u, x ++ y, t, ?_, ?_, ?_, .seq hp htakes⟩
    · rw [List.append_assoc, hw]
    · rw [List.append_assoc]
    · rw [List.append_assoc]

theorem leads_alt : Leads w (.alt p q) c d ↔ Leads w p c d ∨ Leads w q c d := by
  constructor
  · rintro ⟨u, v, t, hw, hc, hd, h⟩
    cases h with
    | first h => exact .inl ⟨u, v, t, hw, hc, hd, h⟩
    | second h => exact .inr ⟨u, v, t, hw, hc, hd, h⟩
  · rintro (⟨u, v, t, hw, hc, hd, h⟩ | ⟨u, v, t, hw, hc, hd, h⟩)
    · exact ⟨u, v, t, hw, hc, hd, .first h⟩
    · exact ⟨u, v, t, hw, hc, hd, .second h⟩

theorem leads_opt (hc : c.InText w) : Leads w (.opt p) c d ↔ Leads w p c d ∨ d = c := by
  obtain ⟨u, r, hw, rfl⟩ := hc
  rw [leads_between hw, leads_between hw]
  constructor
  · rintro ⟨v, t, hr, hd, h⟩
    cases h with
    | present h => exact .inl ⟨v, t, hr, hd, h⟩
    | absent =>
      rw [List.nil_append] at hr
      rw [hr, hd, List.append_nil]
      exact .inr rfl
  · rintro (⟨v, t, hr, hd, h⟩ | rfl)
    · exact ⟨v, t, hr, hd, .present h⟩
    · exact ⟨[], r, rfl, by rw [List.append_nil], .absent u r⟩

theorem leads_group {n : Nat} : Leads w (.group n p) c d ↔ Leads w p c d := by
  constructor
  · rintro ⟨u, v, t, hw, hc, hd, h⟩
    cases h with
    | group h => exact ⟨u, v, t, hw, hc, hd, h⟩
  · rintro ⟨u, v, t, hw, hc, hd, h⟩
    exact ⟨u, v, t, hw, hc, hd, .group h⟩

/-- At least one character is one character and then a run. -/
theorem leads_run_true :
    Leads w (.run s true) c d ↔ ∃ e, Leads w (.one s) c e ∧ Leads w (.run s false) e d := by
  rw [← leads_seq]
  constructor
  · rintro ⟨u, v, t, hw, hc, hd, h⟩
    cases h with
    | run h hv =>
      obtain ⟨x, v, rfl⟩ := List.exists_cons_of_ne_nil (hv rfl)
      obtain ⟨hx, hv⟩ := List.forall_mem_cons.mp h
      exact ⟨u, x :: v, t, hw, hc, hd, .seq (v := [x]) (.one hx) (.run hv (by simp))⟩
  · rintro ⟨u, v, t, hw, hc, hd, h⟩
    cases h with
    | seq hp hq =>
      cases hp with
      | one hx =>
        cases hq with
        | run h =>
          exact ⟨u, _, t, hw, hc, hd, .run (List.forall_mem_cons.mpr ⟨hx, h⟩) (by simp)⟩

/-! ## Runs -/

theorem leads_run_nil {u : List Char} (hw : u ++ [] = w) :
    Leads w (.run s false) (.between u []) d ↔ d = .between u [] := by
  rw [leads_between hw]
  constructor
  · rintro ⟨v, t, hr, rfl, -⟩
    obtain ⟨rfl, rfl⟩ := List.append_eq_nil_iff.mp hr.symm
    rw [List.append_nil]
  · rintro rfl
    exact ⟨[], [], rfl, by rw [List.append_nil], .run (by simp) (by simp)⟩

/-- A run ends at once, or it takes the next character and goes on. -/
theorem leads_run_cons {u r : List Char} {x : Char} (hw : u ++ x :: r = w) :
    Leads w (.run s false) (.between u (x :: r)) d ↔
      d = .between u (x :: r) ∨
        s.has x = true ∧ Leads w (.run s false) (.between (u ++ [x]) r) d := by
  rw [leads_between hw, leads_between (by rw [List.append_assoc, List.singleton_append, hw])]
  constructor
  · rintro ⟨v, t, hr, rfl, h⟩
    cases h with
    | run h =>
      cases v with
      | nil =>
        rw [List.nil_append] at hr
        rw [List.append_nil, hr]
        exact .inl rfl
      | cons y v =>
        obtain ⟨rfl, rfl⟩ := List.cons.inj hr
        obtain ⟨hx, hv⟩ := List.forall_mem_cons.mp h
        refine .inr ⟨hx, v, t, rfl, ?_, .run hv (by simp)⟩
        rw [List.append_assoc, List.singleton_append]
  · rintro (rfl | ⟨hx, v, t, rfl, rfl, h⟩)
    · exact ⟨[], x :: r, rfl, by rw [List.append_nil], .run (by simp) (by simp)⟩
    · cases h with
      | run h =>
        refine ⟨x :: v, t, rfl, ?_, .run (List.forall_mem_cons.mpr ⟨hx, h⟩) (by simp)⟩
        rw [List.append_assoc, List.singleton_append]

theorem leads_run_self (hc : c.InText w) : Leads w (.run s false) c c := by
  obtain ⟨u, r, hw, rfl⟩ := hc
  exact ⟨u, [], r, hw, rfl, by rw [List.append_nil], .run (by simp) (by simp)⟩

theorem leads_run_trans (hd : Leads w (.run s false) c d) (he : Leads w (.run s false) d e) :
    Leads w (.run s false) c e := by
  obtain ⟨u, v, t, hw, rfl, rfl, h⟩ := hd
  obtain ⟨x, r, rfl, rfl, h'⟩ := (leads_between (by rw [List.append_assoc, hw])).mp he
  cases h with
  | run h =>
    cases h' with
    | run h' =>
      refine ⟨u, v ++ x, r, ?_, ?_, ?_, .run (List.forall_mem_append.mpr ⟨h, h'⟩) (by simp)⟩
      · rw [List.append_assoc, hw]
      · rw [List.append_assoc]
      · rw [List.append_assoc]

/-- Two positions of a run: what lies between them is part of it. -/
theorem leads_run_of_between (hd : Leads w (.run s false) c d) (he : e.InText w)
    (hce : e.left ≤ c.left) (hed : d.left ≤ e.left) : Leads w (.run s false) c e := by
  obtain ⟨u, v, t, hw, rfl, rfl, h⟩ := hd
  obtain ⟨u', r, hw', rfl⟩ := he
  simp only [Cursor.between, List.length_append] at hce hed
  cases h with
  | run h =>
    -- The position lies behind `u`, and inside of `v`.
    obtain ⟨x, rfl, hx⟩ : ∃ x, u' = u ++ x ∧ v ++ t = x ++ r := by
      rcases List.append_eq_append_iff.mp (hw'.trans hw.symm) with ⟨x, hu, hr⟩ | ⟨x, hu, hr⟩
      · have hlen := congrArg List.length hr
        simp only [List.length_append] at hlen
        obtain rfl := List.length_eq_zero_iff.mp (by omega : x.length = 0)
        rw [List.append_nil] at hu
        exact ⟨[], by rw [hu, List.append_nil], hr.symm⟩
      · exact ⟨x, hu, hr⟩
    refine ⟨u, x, r, ?_, by rw [hx], rfl, .run ?_ (by simp)⟩
    · rw [← hx, hw]
    · rcases List.append_eq_append_iff.mp hx with ⟨y, hv, hy⟩ | ⟨y, hv, hy⟩
      · have hlen := congrArg List.length hy
        simp only [List.length_append] at hlen
        obtain rfl := List.length_eq_zero_iff.mp (by omega : y.length = 0)
        rw [hv, List.append_nil]
        exact h
      · intro z hz
        exact h z (by rw [hv]; exact List.mem_append_left y hz)

end Dossier.Pattern
