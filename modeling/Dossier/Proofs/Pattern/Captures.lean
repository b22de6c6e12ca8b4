import Dossier.Proofs.Pattern.Reach

/-!
# What a match keeps

A match keeps the texts of its numbered parts: **`exists_part_of_mem_capturesOf`** says that each of
them is a piece of the searched text, and that a part with this number takes it where it stands.

A search carries what comes after a pattern along and goes back when that fails, so what is proved
is about the way on which it succeeds in the end. Such a way through a pattern is a `Passage`.
Passages are made construct by construct, and every success has one (`exists_passage`), by induction
on the pattern.
-/

set_option autoImplicit false

namespace Dossier.Pattern

variable {w : List Char} {p q : Pattern} {s : CharSet} {c d e : Cursor} {t t' t'' : Trace}

/-! ## Numbered parts -/

/-- What stands in the parts of a pattern that have a number, at any depth. -/
def parts (n : Nat) : Pattern → List Pattern
  | .empty | .lineStart | .wordEdge | .one _ | .run _ _ => []
  | .seq p q | .alt p q => parts n p ++ parts n q
  | .opt p => parts n p
  | .group m p => (if m = n then [p] else []) ++ parts n p

/-- The numbered text is a piece of `w`, and a part with this number takes it there. -/
def TakenByPart (w : List Char) (p : Pattern) (x : Nat × String) : Prop :=
  ∃ part ∈ p.parts x.1, ∃ u t, u ++ (x.2.toList ++ t) = w ∧ Takes part u x.2.toList t

theorem TakenByPart.mono {x : Nat × String} (h : TakenByPart w p x)
    (hparts : p.parts x.1 ⊆ q.parts x.1) : TakenByPart w q x := by
  obtain ⟨part, hpart, htaken⟩ := h
  exact ⟨part, hparts hpart, htaken⟩

/-! ## Passages -/

/-- A way through a pattern: it leads from one position to another, ends the parts that begin on it,
and keeps only what its parts take. -/
structure Passage (w : List Char) (p : Pattern) (c : Cursor) (t : Trace) (d : Cursor) (t' : Trace) :
    Prop where
  leads : Leads w p c d
  opened : t'.opened = t.opened
  kept : ∀ x ∈ t'.captures, x ∈ t.captures ∨ TakenByPart w p x

/-- What has no parts keeps nothing. -/
theorem Passage.of_leads (h : Leads w p c d) : Passage w p c t d t := ⟨h, rfl, fun _ => .inl⟩

/-- A way through a part is one through the whole that leads to the same position. -/
theorem Passage.widen (h : Passage w p c t d t') (hleads : Leads w q c d)
    (hparts : ∀ n, p.parts n ⊆ q.parts n) : Passage w q c t d t' :=
  ⟨hleads, h.opened, fun x hx => (h.kept x hx).imp_right fun htaken => htaken.mono (hparts x.1)⟩

theorem Passage.seq (hp : Passage w p c t d t') (hq : Passage w q d t' e t'') :
    Passage w (.seq p q) c t e t'' where
  leads := leads_seq.mpr ⟨d, hp.leads, hq.leads⟩
  opened := hq.opened.trans hp.opened
  kept x hx := by
    rcases hq.kept x hx with hx | htaken
    · exact (hp.kept x hx).imp_right fun htaken => htaken.mono (List.subset_append_left _ _)
    · exact .inr (htaken.mono (List.subset_append_right _ _))

/-- What stands between two positions is what the pattern takes there. -/
theorem Leads.textTo (h : Leads w p c d) : ∃ u v t, u ++ (v ++ t) = w ∧ Takes p u v t ∧
    c.textTo d = String.ofList v := by
  obtain ⟨u, v, t, hw, rfl, rfl, htakes⟩ := h
  refine ⟨u, v, t, hw, htakes, congrArg String.ofList ?_⟩
  show (v ++ t).take ((v ++ t).length - t.length) = v
  rw [List.length_append, Nat.add_sub_cancel, List.take_left]

/-- A numbered part keeps what it takes. -/
theorem Passage.group {n : Nat} (h : Passage w p c (t.enter c) d t') :
    Passage w (.group n p) c t d (t'.leave n d) := by
  have hleave : t'.leave n d = ⟨t.opened, (n, c.textTo d) :: t'.captures⟩ := by
    unfold Trace.leave
    rw [h.opened]
    rfl
  rw [hleave]
  refine ⟨leads_group.mpr h.leads, rfl, List.forall_mem_cons.mpr ⟨.inr ?_, fun x hx => ?_⟩⟩
  · obtain ⟨u, v, rest, hw, htakes, htext⟩ := h.leads.textTo
    refine ⟨p, by simp [parts], u, rest, ?_⟩
    rw [htext, String.toList_ofList]
    exact ⟨hw, htakes⟩
  · exact (h.kept x hx).imp_right fun htaken => htaken.mono (List.subset_append_right _ _)

/-! ## Searching -/

theorem Step.go_of_attempt {α : Type} {next : Step α} {a : α} (h : next.attempt c t = some a) :
    next.go c t = some a := by
  unfold Step.attempt at h
  split at h
  · exact h
  · cases h

theorem leads_of_mem_run {atLeastOne : Bool} (hc : c.InText w) (h : d ∈ c.run s atLeastOne) :
    Leads w (.run s atLeastOne) c d := by
  cases atLeastOne with
  | false => exact (mem_run hc).mp h
  | true =>
    unfold Cursor.run at h
    rw [if_pos rfl] at h
    split at h
    · exact absurd h List.not_mem_nil
    · next e he =>
      have hone := (leads_one hc).mpr he
      exact leads_run_true.mpr ⟨e, hone, (mem_run hone.inText_right).mp h⟩

/-- **A success has passed through the pattern**, and what comes after it succeeded from there. -/
theorem exists_passage {α : Type} (reversed : List Char) (p : Pattern) {next : Step α} {a : α}
    (hc : c.InText w) (h : (Step.ofPattern reversed p next).go c t = some a) :
    ∃ d t', Passage w p c t d t' ∧ next.go d t' = some a := by
  induction p generalizing next c t with
  | empty =>
    have hhere := (@leads_test w .empty c c (fun _ => true) takes_empty_iff hc).mpr ⟨rfl, rfl⟩
    exact ⟨c, t, .of_leads hhere, h⟩
  | lineStart =>
    obtain ⟨htest, h⟩ := Option.ite_none_right_eq_some.mp h
    exact ⟨c, t, .of_leads ((leads_test takes_lineStart_iff hc).mpr ⟨rfl, htest⟩),
      Step.go_of_attempt h⟩
  | wordEdge =>
    obtain ⟨htest, h⟩ := Option.ite_none_right_eq_some.mp h
    exact ⟨c, t, .of_leads ((leads_test takes_wordEdge_iff hc).mpr ⟨rfl, htest⟩),
      Step.go_of_attempt h⟩
  | one s =>
    obtain ⟨d, hd, h⟩ := Option.bind_eq_some_iff.mp h
    exact ⟨d, t, .of_leads ((leads_one hc).mpr hd), Step.go_of_attempt h⟩
  | run s atLeastOne =>
    obtain ⟨d, hd, h⟩ := List.exists_of_findSome?_eq_some h
    exact ⟨d, t, .of_leads (leads_of_mem_run hc hd), Step.go_of_attempt h⟩
  | seq p q ihp ihq =>
    obtain ⟨d, t', hp, h⟩ := ihp hc h
    obtain ⟨e, t'', hq, h⟩ := ihq hp.leads.inText_right h
    exact ⟨e, t'', hp.seq hq, h⟩
  | alt p q ihp ihq =>
    rcases Option.or_eq_some_iff.mp h with h | ⟨-, h⟩
    · obtain ⟨d, t', hp, h⟩ := ihp hc (Step.go_of_attempt h)
      have hparts (n : Nat) : p.parts n ⊆ (p.alt q).parts n := List.subset_append_left _ _
      exact ⟨d, t', hp.widen (leads_alt.mpr (.inl hp.leads)) hparts, h⟩
    · obtain ⟨d, t', hq, h⟩ := ihq hc (Step.go_of_attempt h)
      have hparts (n : Nat) : q.parts n ⊆ (p.alt q).parts n := List.subset_append_right _ _
      exact ⟨d, t', hq.widen (leads_alt.mpr (.inr hq.leads)) hparts, h⟩
  | opt p ih =>
    rcases Option.or_eq_some_iff.mp h with h | ⟨-, h⟩
    · obtain ⟨d, t', hp, h⟩ := ih hc (Step.go_of_attempt h)
      have hparts (n : Nat) : p.parts n ⊆ (Pattern.opt p).parts n := List.Subset.refl _
      exact ⟨d, t', hp.widen ((leads_opt hc).mpr (.inl hp.leads)) hparts, h⟩
    · exact ⟨c, t, .of_leads ((leads_opt hc).mpr (.inr rfl)), Step.go_of_attempt h⟩
  | group n p ih =>
    obtain ⟨d, t', hp, h⟩ := ih hc h
    exact ⟨d, t'.leave n d, hp.group, h⟩

/-! ## All matches of a text -/

/-- A match was found from some position of the text. -/
theorem exists_attempt_of_mem_matchesFrom {search : Search} {found : Captures} {resume : Nat}
    {u r : List Char} (hw : u ++ r = w)
    (h : found ∈ matchesFrom search resume u.getLast? r.length r) :
    ∃ c stop, c.InText w ∧ search.attempt c {} = some (stop, found) := by
  induction r generalizing resume u with
  | nil => exact absurd h List.not_mem_nil
  | cons x r ih =>
    have hnext : u ++ [x] ++ r = w := by rw [List.append_assoc, List.singleton_append, hw]
    have hlater {resume : Nat} (h : found ∈ matchesFrom search resume (some x) r.length r) :=
      ih hnext (by rwa [List.getLast?_concat])
    unfold matchesFrom at h
    split at h
    · exact hlater h
    · split at h
      · exact hlater h
      · next stop captures hfound =>
        rcases List.mem_cons.mp h with rfl | h
        · exact ⟨.between u (x :: r), stop, ⟨u, x :: r, hw, rfl⟩, hfound⟩
        · exact hlater h

/-- **What a match keeps under a number, a part with this number takes**, where it stands. -/
theorem exists_part_of_mem_capturesOf {n : Nat} {text kept : String}
    (h : kept ∈ capturesOf p n text) : ∃ part ∈ p.parts n,
      ∃ u t, u ++ (kept.toList ++ t) = text.toList ∧ Takes part u kept.toList t := by
  obtain ⟨found, hfound, hkept⟩ := List.mem_filterMap.mp h
  obtain ⟨c, stop, hc, hattempt⟩ := exists_attempt_of_mem_matchesFrom (u := []) rfl hfound
  obtain ⟨d, t, hpassage, hdone⟩ := exists_passage _ p hc (Step.go_of_attempt hattempt)
  obtain ⟨-, rfl⟩ := Prod.mk.inj (Option.some.inj hdone)
  obtain ⟨later, earlier, hcaptures, -⟩ := List.lookup_eq_some_iff.mp hkept
  have hmem : (n, kept) ∈ t.captures := by
    rw [hcaptures]
    exact List.mem_append_right later List.mem_cons_self
  exact (hpassage.kept _ hmem).resolve_left List.not_mem_nil

/-- When only one part has the number, it takes whatever is kept under it. -/
theorem takes_of_mem_capturesOf {n : Nat} {text kept : String} (hparts : p.parts n = [q])
    (h : kept ∈ capturesOf p n text) : ∃ u t, Takes q u kept.toList t := by
  obtain ⟨part, hpart, u, t, -, htakes⟩ := exists_part_of_mem_capturesOf h
  rw [hparts, List.mem_singleton] at hpart
  subst hpart
  exact ⟨u, t, htakes⟩

end Dossier.Pattern
