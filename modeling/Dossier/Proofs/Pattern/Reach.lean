import Dossier.Proofs.Pattern.Takes

/-!
# Where a pattern leads

`reach` works with lists of positions of a text, each once and from left to right: a `Ladder`. From
a ladder it leads to a ladder, of exactly the positions at which a text that the pattern takes can
end: **`reach_spec`**, by induction on the pattern. The one construct that is not simple is a run
from many positions at once, where `flood` skips those that an earlier run has passed
(`flood_spec`). So a pattern matches the whole of a text exactly when it takes it
(`matchesWhole_iff`).
-/

set_option autoImplicit false

namespace Dossier.Pattern

variable {w : List Char} {p q : Pattern} {s : CharSet} {c d e : Cursor}

/-! ## Ends of a run -/

/-- The ends of a run stand in front of those that are given, the farthest first. -/
theorem runEnds_spec {u r : List Char} (hw : u ++ r = w) (nearer : List Cursor)
    (hsorted : nearer.Pairwise fun c d => c.left < d.left)
    (hfar : ∀ c ∈ nearer, r.length < c.left) :
    (∀ d, d ∈ runEnds s u.getLast? r.length nearer r ↔
        Leads w (.run s false) (.between u r) d ∨ d ∈ nearer) ∧
      (runEnds s u.getLast? r.length nearer r).Pairwise fun c d => c.left < d.left := by
  induction r generalizing u nearer with
  | nil =>
    refine ⟨fun d => ?_, ?_⟩
    · rw [leads_run_nil hw, runEnds, List.mem_cons]
      rfl
    · rw [runEnds, List.pairwise_cons]
      exact ⟨hfar, hsorted⟩
  | cons x r ih =>
    have hhere : (Cursor.between u (x :: r) :: nearer).Pairwise fun c d => c.left < d.left :=
      List.pairwise_cons.mpr ⟨hfar, hsorted⟩
    rw [runEnds]
    split
    · next hx =>
      have hlast : (some x : Option Char) = (u ++ [x]).getLast? := by simp
      rw [hlast, List.length_cons, Nat.add_sub_cancel]
      obtain ⟨hmem, hpairwise⟩ := ih (u := u ++ [x])
        (by rw [List.append_assoc, List.singleton_append, hw]) _ hhere (by
          intro c hc
          rcases List.mem_cons.mp hc with rfl | hc
          · exact Nat.lt_succ_self _
          · exact Nat.lt_of_succ_lt (hfar c hc))
      refine ⟨fun d => ?_, hpairwise⟩
      refine (hmem d).trans ?_
      rw [leads_run_cons hw, List.mem_cons, and_iff_right hx]
      exact or_left_comm.trans or_assoc.symm
    · next hx =>
      refine ⟨fun d => ?_, hhere⟩
      rw [leads_run_cons hw, List.mem_cons]
      simp [hx]
      rfl

theorem mem_run (hc : c.InText w) : d ∈ c.run s false ↔ Leads w (.run s false) c d := by
  obtain ⟨u, r, hw, rfl⟩ := hc
  have h := (runEnds_spec (s := s) hw [] .nil (by simp)).1 d
  rwa [List.mem_nil_iff, or_false] at h

theorem pairwise_run (hc : c.InText w) :
    (c.run s false).Pairwise fun c d => c.left < d.left := by
  obtain ⟨u, r, hw, rfl⟩ := hc
  exact (runEnds_spec (s := s) hw [] .nil (by simp)).2

/-! ## Ladders -/

/-- Positions of a text from left to right, each once. -/
structure Ladder (w : List Char) (cs : List Cursor) : Prop where
  inText : ∀ c ∈ cs, c.InText w
  descending : cs.Pairwise fun c d => d.left < c.left

variable {cs ds : List Cursor}

theorem Ladder.tail (h : Ladder w (c :: cs)) : Ladder w cs :=
  ⟨fun d hd => h.inText d (List.mem_cons_of_mem c hd), (List.pairwise_cons.mp h.descending).2⟩

theorem Ladder.head_lt (h : Ladder w (c :: cs)) (hd : d ∈ cs) : d.left < c.left :=
  (List.pairwise_cons.mp h.descending).1 d hd

theorem Ladder.cons (h : Ladder w cs) (hc : c.InText w) (hlt : ∀ d ∈ cs, d.left < c.left) :
    Ladder w (c :: cs) where
  inText d hd := by
    rcases List.mem_cons.mp hd with rfl | hd
    · exact hc
    · exact h.inText d hd
  descending := List.pairwise_cons.mpr ⟨hlt, h.descending⟩

theorem union_spec (hcs : Ladder w cs) (hds : Ladder w ds) :
    Ladder w (union cs ds) ∧ ∀ e, e ∈ union cs ds ↔ e ∈ cs ∨ e ∈ ds := by
  fun_induction union cs ds with
  | case1 ds => exact ⟨hds, by simp⟩
  | case2 cs => exact ⟨hcs, by simp⟩
  | case3 c cs d ds hlt ih =>
    obtain ⟨hladder, hmem⟩ := ih hcs.tail hds
    refine ⟨hladder.cons (hcs.inText c List.mem_cons_self) fun e he => ?_, fun e => ?_⟩
    · rcases (hmem e).mp he with he | he
      · exact hcs.head_lt he
      · rcases List.mem_cons.mp he with rfl | he
        · exact hlt
        · exact Nat.lt_trans (hds.head_lt he) hlt
    · rw [List.mem_cons, hmem, List.mem_cons, List.mem_cons, or_assoc]
  | case4 c cs d ds _ hlt ih =>
    obtain ⟨hladder, hmem⟩ := ih hcs hds.tail
    refine ⟨hladder.cons (hds.inText d List.mem_cons_self) fun e he => ?_, fun e => ?_⟩
    · rcases (hmem e).mp he with he | he
      · rcases List.mem_cons.mp he with rfl | he
        · exact hlt
        · exact Nat.lt_trans (hcs.head_lt he) hlt
      · exact hds.head_lt he
    · rw [List.mem_cons, hmem, List.mem_cons, List.mem_cons, or_left_comm]
  | case5 c cs d ds hle hge ih =>
    obtain ⟨hladder, hmem⟩ := ih hcs.tail hds.tail
    have hsame : c = d := eq_of_left_eq (hcs.inText c List.mem_cons_self)
      (hds.inText d List.mem_cons_self) (Nat.le_antisymm (Nat.not_lt.mp hle) (Nat.not_lt.mp hge))
    subst hsame
    refine ⟨hladder.cons (hcs.inText c List.mem_cons_self) fun e he => ?_, fun e => ?_⟩
    · rcases (hmem e).mp he with he | he
      · exact hcs.head_lt he
      · exact hds.head_lt he
    · rw [List.mem_cons, hmem, List.mem_cons, List.mem_cons, or_or_distrib_left]

theorem ladder_reverse_run (hc : c.InText w) : Ladder w (c.run s false).reverse where
  inText _ hd := ((mem_run hc).mp (List.mem_reverse.mp hd)).inText_right
  descending := List.pairwise_reverse.mpr (pairwise_run hc)

theorem Ladder.append (hcs : Ladder w cs) (hds : Ladder w ds)
    (hlt : ∀ c ∈ cs, ∀ d ∈ ds, d.left < c.left) : Ladder w (cs ++ ds) where
  inText c hc := by
    rcases List.mem_append.mp hc with hc | hc
    · exact hcs.inText c hc
    · exact hds.inText c hc
  descending := List.pairwise_append.mpr ⟨hcs.descending, hds.descending, hlt⟩

/--
Below its bound a flood finds all ends of runs. It may skip what lies above, because no run that
starts there comes below the bound.
-/
theorem flood_spec {bound : Nat} (hcs : Ladder w cs)
    (hbound : ∀ c ∈ cs, bound ≤ c.left → ∀ d, Leads w (.run s false) c d → bound ≤ d.left) :
    Ladder w (flood s bound cs) ∧
      ∀ d, d ∈ flood s bound cs ↔ d.left < bound ∧ ∃ c ∈ cs, Leads w (.run s false) c d := by
  fun_induction flood s bound cs with
  | case1 bound => exact ⟨⟨by simp, .nil⟩, by simp⟩
  | case2 bound c cs hle ih =>
    obtain ⟨hladder, hmem⟩ := ih hcs.tail fun d hd => hbound d (List.mem_cons_of_mem c hd)
    refine ⟨hladder, fun d => (hmem d).trans ?_⟩
    constructor
    · rintro ⟨hlt, e, he, hlead⟩
      exact ⟨hlt, e, List.mem_cons_of_mem c he, hlead⟩
    · rintro ⟨hlt, e, he, hlead⟩
      rcases List.mem_cons.mp he with rfl | he
      · exact absurd (hbound e List.mem_cons_self hle d hlead) (Nat.not_le.mpr hlt)
      · exact ⟨hlt, e, he, hlead⟩
  | case3 bound c cs hlt hrun ih =>
    have hc := hcs.inText c List.mem_cons_self
    have hself : c ∈ c.run s false := (mem_run hc).mpr (leads_run_self hc)
    rw [hrun] at hself
    exact absurd hself List.not_mem_nil
  | case4 bound c cs hlt last nearer hrun ih =>
    have hc := hcs.inText c List.mem_cons_self
    have hmemRun : ∀ d, d ∈ last :: nearer ↔ Leads w (.run s false) c d := fun d => by
      rw [← hrun]
      exact mem_run hc
    have hfarthest : ∀ d, Leads w (.run s false) c d → last.left ≤ d.left := by
      intro d hd
      have hsorted := pairwise_run (s := s) hc
      rw [hrun] at hsorted
      rcases List.mem_cons.mp ((hmemRun d).mpr hd) with rfl | hd
      · exact Nat.le_refl _
      · exact Nat.le_of_lt ((List.pairwise_cons.mp hsorted).1 d hd)
    have hlast := (hmemRun last).mp List.mem_cons_self
    -- A later start that the run has passed is itself an end of the run.
    have hpassed : ∀ e ∈ cs, last.left ≤ e.left → Leads w (.run s false) c e := fun e he hle =>
      leads_run_of_between hlast (hcs.inText e (List.mem_cons_of_mem c he))
        (Nat.le_of_lt (hcs.head_lt he)) hle
    obtain ⟨hladder, hmem⟩ := ih hcs.tail fun e he hle d hd =>
      hfarthest d (leads_run_trans (hpassed e he hle) hd)
    have hreversed : Ladder w (last :: nearer).reverse := by
      rw [← hrun]
      exact ladder_reverse_run hc
    refine ⟨hreversed.append hladder fun d hd e he => ?_, fun d => ?_⟩
    · have hd := hfarthest d ((hmemRun d).mp (List.mem_reverse.mp hd))
      exact Nat.lt_of_lt_of_le ((hmem e).mp he).1 hd
    · rw [List.mem_append, List.mem_reverse, hmemRun, hmem]
      constructor
      · rintro (hd | ⟨hfar, e, he, hd⟩)
        · exact ⟨Nat.lt_of_le_of_lt hd.left_le (Nat.not_le.mp hlt), c, List.mem_cons_self, hd⟩
        · refine ⟨?_, e, List.mem_cons_of_mem c he, hd⟩
          exact Nat.lt_trans (Nat.lt_of_lt_of_le hfar hlast.left_le) (Nat.not_le.mp hlt)
      · rintro ⟨-, e, he, hd⟩
        rcases List.mem_cons.mp he with rfl | he
        · exact .inl hd
        · by_cases hfar : d.left < last.left
          · exact .inr ⟨hfar, e, he, hd⟩
          · have hle : last.left ≤ e.left := Nat.le_trans (Nat.not_lt.mp hfar) hd.left_le
            exact .inl (leads_run_trans (hpassed e he hle) hd)

theorem afterRun_spec (hcs : Ladder w cs) :
    Ladder w (afterRun s cs) ∧
      ∀ d, d ∈ afterRun s cs ↔ ∃ c ∈ cs, Leads w (.run s false) c d := by
  cases cs with
  | nil => exact ⟨hcs, by simp [afterRun]⟩
  | cons c cs =>
    -- All positions lie below the bound.
    have hbelow : ∀ e ∈ c :: cs, e.left < c.left + 1 := by
      intro e he
      rcases List.mem_cons.mp he with rfl | he
      · exact Nat.lt_succ_self _
      · exact Nat.lt_trans (hcs.head_lt he) (Nat.lt_succ_self _)
    obtain ⟨hladder, hmem⟩ := flood_spec (s := s) hcs fun e he hle =>
      absurd hle (Nat.not_le.mpr (hbelow e he))
    refine ⟨hladder, fun d => (hmem d).trans ?_⟩
    constructor
    · rintro ⟨-, h⟩
      exact h
    · rintro ⟨e, he, hd⟩
      exact ⟨Nat.lt_of_le_of_lt hd.left_le (hbelow e he), e, he, hd⟩

/-! ## Patterns -/

theorem filter_spec (test : Cursor → Bool)
    (htakes : ∀ u v t : List Char, Takes p u v t ↔ v = [] ∧ test (.between u t) = true)
    (hcs : Ladder w cs) :
    Ladder w (cs.filter test) ∧ ∀ d, d ∈ cs.filter test ↔ ∃ c ∈ cs, Leads w p c d := by
  refine ⟨⟨fun c hc => hcs.inText c (List.mem_of_mem_filter hc), hcs.descending.filter test⟩, ?_⟩
  intro d
  rw [List.mem_filter]
  constructor
  · rintro ⟨hd, htest⟩
    exact ⟨d, hd, (leads_test htakes (hcs.inText d hd)).mpr ⟨rfl, htest⟩⟩
  · rintro ⟨c, hc, hlead⟩
    obtain ⟨rfl, htest⟩ := (leads_test htakes (hcs.inText c hc)).mp hlead
    exact ⟨hc, htest⟩

theorem left_of_step? (hc : c.InText w) (h : c.step? s = some d) : d.left + 1 = c.left := by
  obtain ⟨u, v, t, -, rfl, rfl, htakes⟩ := (leads_one hc).mpr h
  cases htakes
  simp [Cursor.between]

theorem one_spec (hcs : Ladder w cs) :
    Ladder w (cs.filterMap (Cursor.step? s)) ∧
      ∀ d, d ∈ cs.filterMap (Cursor.step? s) ↔ ∃ c ∈ cs, Leads w (.one s) c d := by
  have hmem : ∀ d, d ∈ cs.filterMap (Cursor.step? s) ↔ ∃ c ∈ cs, Leads w (.one s) c d := by
    intro d
    rw [List.mem_filterMap]
    refine exists_congr fun c => and_congr_right fun hc => ?_
    exact (leads_one (hcs.inText c hc)).symm
  refine ⟨⟨fun d hd => ?_, ?_⟩, hmem⟩
  · obtain ⟨c, -, hlead⟩ := (hmem d).mp hd
    exact hlead.inText_right
  · refine List.pairwise_filterMap.mpr (hcs.descending.imp_of_mem ?_)
    intro c c' hc hc' hlt d hd d' hd'
    have hleft := left_of_step? (hcs.inText c hc) hd
    have hleft' := left_of_step? (hcs.inText c' hc') hd'
    omega

theorem exists_leads_comp {p₁ p₂ : Pattern} {mid : List Cursor}
    (hmid : ∀ e, e ∈ mid ↔ ∃ c ∈ cs, Leads w p₁ c e)
    (hcomp : ∀ c, Leads w p c d ↔ ∃ e, Leads w p₁ c e ∧ Leads w p₂ e d) :
    (∃ e ∈ mid, Leads w p₂ e d) ↔ ∃ c ∈ cs, Leads w p c d := by
  constructor
  · rintro ⟨e, he, hd⟩
    obtain ⟨c, hc, hlead⟩ := (hmid e).mp he
    exact ⟨c, hc, (hcomp c).mpr ⟨e, hlead, hd⟩⟩
  · rintro ⟨c, hc, hlead⟩
    obtain ⟨e, he, hd⟩ := (hcomp c).mp hlead
    exact ⟨e, (hmid e).mpr ⟨c, hc, he⟩, hd⟩

/-- **From a ladder a pattern leads to a ladder**, of the ends of all texts that it can take. -/
theorem reach_spec (p : Pattern) (hcs : Ladder w cs) :
    Ladder w (reach p cs) ∧ ∀ d, d ∈ reach p cs ↔ ∃ c ∈ cs, Leads w p c d := by
  induction p generalizing cs with
  | empty =>
    have h := filter_spec (fun _ => true) takes_empty_iff hcs
    rwa [List.filter_true] at h
  | lineStart => exact filter_spec _ takes_lineStart_iff hcs
  | wordEdge => exact filter_spec _ takes_wordEdge_iff hcs
  | one s => exact one_spec hcs
  | run s atLeastOne =>
    cases atLeastOne with
    | false => exact afterRun_spec hcs
    | true =>
      obtain ⟨hone, hmemOne⟩ := one_spec (s := s) hcs
      obtain ⟨hrun, hmemRun⟩ := afterRun_spec (s := s) hone
      exact ⟨hrun, fun d => (hmemRun d).trans (exists_leads_comp hmemOne fun _ => leads_run_true)⟩
  | seq p q ihp ihq =>
    obtain ⟨hp, hmemP⟩ := ihp hcs
    obtain ⟨hq, hmemQ⟩ := ihq hp
    exact ⟨hq, fun d => (hmemQ d).trans (exists_leads_comp hmemP fun _ => leads_seq)⟩
  | alt p q ihp ihq =>
    obtain ⟨hp, hmemP⟩ := ihp hcs
    obtain ⟨hq, hmemQ⟩ := ihq hcs
    obtain ⟨hunion, hmem⟩ := union_spec hp hq
    refine ⟨hunion, fun d => (hmem d).trans ?_⟩
    rw [hmemP, hmemQ]
    simp only [leads_alt, and_or_left, exists_or]
  | opt p ih =>
    obtain ⟨hp, hmemP⟩ := ih hcs
    obtain ⟨hunion, hmem⟩ := union_spec hp hcs
    refine ⟨hunion, fun d => (hmem d).trans ?_⟩
    rw [hmemP]
    constructor
    · rintro (⟨c, hc, hlead⟩ | hd)
      · exact ⟨c, hc, (leads_opt (hcs.inText c hc)).mpr (.inl hlead)⟩
      · exact ⟨d, hd, (leads_opt (hcs.inText d hd)).mpr (.inr rfl)⟩
    · rintro ⟨c, hc, hlead⟩
      rcases (leads_opt (hcs.inText c hc)).mp hlead with hlead | rfl
      · exact .inl ⟨c, hc, hlead⟩
      · exact .inr hc
  | group n p ih =>
    obtain ⟨hp, hmem⟩ := ih hcs
    refine ⟨hp, fun d => (hmem d).trans ?_⟩
    simp only [leads_group]

/-- **A pattern matches a whole text when it can take it**, with nothing before and after. -/
theorem matchesWhole_iff (p : Pattern) (text : String) :
    p.matchesWhole text = true ↔ Takes p [] text.toList [] := by
  have hstart : Ladder text.toList [Cursor.start text.toList] :=
    ⟨fun c hc => ⟨[], text.toList, rfl, List.mem_singleton.mp hc⟩, List.pairwise_singleton _ _⟩
  have hlead : ∀ d, Leads text.toList p (Cursor.start text.toList) d ↔
      ∃ v t, text.toList = v ++ t ∧ d = .between ([] ++ v) t ∧ Takes p [] v t := fun d =>
    leads_between (u := []) rfl
  unfold matchesWhole
  rw [List.any_eq_true]
  constructor
  · rintro ⟨d, hd, hend⟩
    obtain ⟨c, hc, h⟩ := ((reach_spec p hstart).2 d).mp hd
    rw [List.mem_singleton.mp hc] at h
    obtain ⟨v, t, htext, rfl, htakes⟩ := (hlead d).mp h
    obtain rfl : t = [] := List.isEmpty_iff.mp hend
    rw [List.append_nil] at htext
    rw [htext]
    exact htakes
  · intro h
    refine ⟨.between text.toList [], ((reach_spec p hstart).2 _).mpr ?_, rfl⟩
    refine ⟨_, List.mem_singleton_self _, (hlead _).mpr ⟨text.toList, [], ?_, rfl, h⟩⟩
    rw [List.append_nil]

end Dossier.Pattern
