import Dossier.Proofs.Session.History

/-!
# What an invalidation reaches

An invalidation drops the kept snapshot of the root that its path leads to at that moment. While the
path leads nowhere it drops nothing, and says so in the same way as when nothing was kept: what was
built before can be given again once the path leads to the root again
(`not_renewed_by_every_invalidation`). What is true is told by `Event.Drops`, which asks where the
path leads. A snapshot that is stored was built in the run, and no event since then has dropped it;
every event keeps this (`stored_next`), and so every snapshot that is given out was built after the
last event that dropped its root (`answer_undropped`).
-/

set_option autoImplicit false

namespace Dossier

/-- What can happen to a store: a step of a run, or an invalidation. -/
inductive Event where
  | step (s : Step)
  | invalidate (path : String)

namespace Moment

/-- Whether a snapshot was kept of what a path leads to, and the moment after it is dropped. -/
def invalidate (m : Moment) (path : String) : Bool × Moment :=
  ((m.store.invalidate (m.locate path)).1,
    { m with store := (m.store.invalidate (m.locate path)).2 })

def next (m : Moment) : Event → Moment
  | .step s => m.after s
  | .invalidate path => (m.invalidate path).2

def play (m : Moment) (events : List Event) : Moment := events.foldl next m

theorem play_snoc (m : Moment) (events : List Event) (x : Event) :
    m.play (events ++ [x]) = (m.play events).next x := List.foldl_append

end Moment

/-- That an event drops what is kept of a root, at a moment: it clears the store, or invalidates a
path that leads to the root. -/
def Event.Drops (m : Moment) (root : Location) : Event → Prop
  | .step .clear => True
  | .step _ => False
  | .invalidate path => ∃ l, m.locate path = .ok l ∧ Location.ofString l.path = root

namespace Moment

/-! ## What an event leaves in the cache -/

variable {m : Moment} {path : String} {root : Location} {e : Edition} {s : Stored Edition}
  {c : ExpiringCache Location Edition}

/-- What is stored after an analysis was built by it, or was stored before. -/
theorem stored_analyze (hc : (m.after (.analyze path)).store.cache = some c)
    (hs : c.stored? root = some s) :
    m.Builds path root s.value ∨ ∃ d, m.store.cache = some d ∧ d.stored? root = some s := by
  cases hd : m.store.cache with
  | none =>
    have hframe := (m.store.frame_analyze path (m.locate path)).2.2
    have hnone : (m.after (.analyze path)).store.cache = none := by
      rwa [hd, Option.map_none, Option.map_eq_none_iff] at hframe
    cases hnone.symm.trans hc
  | some d =>
    have ha := analyzed_answer hd path
    generalize hfound : m.locate path = found at ha
    generalize hanswer : m.answer path = answer at ha
    generalize hstore : (m.after (.analyze path)).store = t at ha hc
    cases ha with
    | unlocated | kept =>
      cases hd.symm.trans hc
      exact .inr ⟨_, rfl, hs⟩
    | refused | overflow =>
      cases hc
      exact .inr ⟨_, rfl, ExpiringCache.stored?_of_get hs⟩
    | @built l snapshot hnone hbuild hclock =>
      cases hc
      rw [ExpiringCache.stored?_put] at hs
      split at hs
      · next hroot =>
        subst hroot
        cases hs
        exact .inl ⟨⟨l, hfound, rfl, hbuild⟩, hanswer, rfl⟩
      · exact .inr ⟨_, rfl, ExpiringCache.stored?_of_get hs⟩

/-- **What is stored after an event was built by it, or was stored before and is not dropped.** -/
theorem stored_next {x : Event} (hc : (m.next x).store.cache = some c)
    (hs : c.stored? root = some s) :
    (∃ path, x = .step (.analyze path) ∧ m.Builds path root s.value) ∨
      ¬ x.Drops m root ∧ ∃ d, m.store.cache = some d ∧ d.stored? root = some s := by
  cases x with
  | step step =>
    cases step with
    | analyze path =>
      rcases stored_analyze hc hs with hbuilds | hkept
      · exact .inl ⟨path, rfl, hbuilds⟩
      · exact .inr ⟨id, hkept⟩
    | clear =>
      obtain ⟨d, -, rfl⟩ := Option.map_eq_some_iff.mp hc
      cases hs
    | advance | change => exact .inr ⟨id, c, hc, hs⟩
  | invalidate path =>
    simp only [next, invalidate] at hc
    cases hfound : m.locate path with
    | error fault =>
      -- Nothing changes, and nothing counts as dropped.
      rw [hfound] at hc
      refine .inr ⟨?_, c, hc, hs⟩
      intro h
      obtain ⟨l, hl, -⟩ := h
      cases hfound.symm.trans hl
    | ok l =>
      rw [hfound] at hc
      cases hd : m.store.cache with
      | none =>
        simp only [Store.invalidate, hd] at hc
        cases hc
      | some d =>
        simp only [Store.invalidate, hd, ExpiringCache.invalidate] at hc
        cases hc
        rw [ExpiringCache.stored?_erase] at hs
        split at hs
        · cases hs
        · next hroot =>
          refine .inr ⟨?_, d, rfl, hs⟩
          intro h
          obtain ⟨l', hl', rfl⟩ := h
          cases hfound.symm.trans hl'
          exact hroot rfl

theorem builds_or_stored {l : Located} (hl : m.locate path = .ok l) (h : m.answer path = .ok e) :
    m.Builds path (.ofString l.path) e ∨
      ∃ c s, m.store.cache = some c ∧ c.stored? (.ofString l.path) = some s ∧ s.value = e := by
  cases hc : m.store.cache with
  | none =>
    have ha := Store.renewed_analyze hc path (m.locate path)
    have hanswer : (m.store.analyze path (m.locate path)).1 = .ok e := h
    generalize (m.store.analyze path (m.locate path)).2 = t at ha
    rw [hanswer, hl] at ha
    cases ha with
    | built hbuild => exact .inl ⟨⟨l, hl, rfl, hbuild⟩, h, rfl⟩
  | some c =>
    have ha := analyzed_answer hc path
    generalize (m.after (.analyze path)).store = t at ha
    rw [hl, h] at ha
    cases ha with
    | kept hlive => exact .inr ⟨c, _, rfl, (ExpiringCache.live?_eq_some.mp hlive).1, rfl⟩
    | built hnone hbuild hclock => exact .inl ⟨⟨l, hl, rfl, hbuild⟩, h, rfl⟩

/-! ## Runs with invalidations -/

/-- That an edition of a root was built in a run, and that nothing since then has dropped it. -/
structure Stands (start : Moment) (before : List Event) (root : Location) (e : Edition) : Prop where
  built : ∃ earlier path since, before = earlier ++ .step (.analyze path) :: since ∧
    (start.play earlier).Builds path root e ∧
    ∀ front x rest, since = front ++ x :: rest →
      ¬ x.Drops (start.play (earlier ++ .step (.analyze path) :: front)) root

variable {start : Moment} {before : List Event}

theorem stands_of_builds (h : (start.play before).Builds path root e) :
    start.Stands (before ++ [.step (.analyze path)]) root e where
  built := ⟨before, path, [], rfl, h, fun front x rest hnil => by simp at hnil⟩

theorem Stands.snoc (h : start.Stands before root e) {x : Event}
    (hx : ¬ x.Drops (start.play before) root) : start.Stands (before ++ [x]) root e where
  built := by
    obtain ⟨earlier, path, since, rfl, hbuilds, hsince⟩ := h.built
    refine ⟨earlier, path, since ++ [x], by simp, hbuilds, ?_⟩
    intro front y rest hsplit
    rcases snoc_eq_append_cons.mp hsplit with ⟨-, rfl, rfl⟩ | ⟨rest, -, rfl⟩
    · exact hx
    · exact hsince front y rest rfl

theorem stands_of_stored (hempty : ∀ c, start.store.cache = some c → c.entries = [])
    (hc : (start.play before).store.cache = some c) (hs : c.stored? root = some s) :
    start.Stands before root s.value := by
  induction before using List.reverseRecOn generalizing c s with
  | nil =>
    rw [ExpiringCache.stored?, hempty c hc] at hs
    cases hs
  | append_singleton before x ih =>
    rw [play_snoc] at hc
    rcases stored_next hc hs with ⟨path, rfl, hbuilds⟩ | ⟨hx, d, hd, hstored⟩
    · exact stands_of_builds hbuilds
    · exact (ih hd hstored).snoc hx

/-- That invalidations reach the roots that their paths lead to, after a run. -/
structure Reached (start : Moment) (before : List Event) (path : String) : Prop where
  /-- A snapshot that is given out was built in the run, and not dropped since. -/
  stands : ∀ e, (start.play before).answer path = .ok e →
    ∃ l, (start.play before).locate path = .ok l ∧
      start.Stands (before ++ [.step (.analyze path)]) (.ofString l.path) e
  /-- An invalidation that reaches the root lets the next analysis of it build. -/
  renewed : ∀ p l l', (start.play before).locate p = .ok l →
    (start.play before).locate path = .ok l' → Location.ofString l.path = .ofString l'.path →
      ∀ e, ((start.play before).invalidate p).2.answer path = .ok e →
        ((start.play before).invalidate p).2.Builds path (.ofString l'.path) e
  /-- An invalidation of a path that leads nowhere says that nothing was kept, and drops nothing. -/
  missed : ∀ p fault, (start.play before).locate p = .error fault →
    (start.play before).invalidate p = (false, start.play before)

/-- **Every snapshot that is given out was built after the last event that dropped its root.** -/
theorem answer_undropped (start : Moment) (hempty : ∀ c, start.store.cache = some c → c.entries = [])
    (before : List Event) (path : String) : start.Reached before path where
  stands e he := by
    cases hl : (start.play before).locate path with
    | error fault =>
      unfold answer at he
      rw [hl] at he
      cases he
    | ok l =>
      refine ⟨l, rfl, ?_⟩
      rcases builds_or_stored hl he with hbuilds | ⟨c, s, hc, hs, rfl⟩
      · exact stands_of_builds hbuilds
      · exact (stands_of_stored hempty hc hs).snoc id
  renewed p l l' hl hl' hroot e he := by
    rcases builds_or_stored (m := ((start.play before).invalidate p).2) hl' he with
      hbuilds | ⟨c, s, hc, hs, -⟩
    · exact hbuilds
    · rcases stored_next (x := .invalidate p) hc hs with ⟨_, hx, -⟩ | ⟨hx, -⟩
      · cases hx
      · exact absurd ⟨l, hl, hroot⟩ hx
  missed p fault hp := by
    unfold invalidate Store.invalidate
    rw [hp]

/-! ## An invalidation that misses -/

/-- A snapshot that was given out is given again at once. -/
theorem answer_again (hc : m.store.cache = some c) (hpos : 0 < c.ttl) (h : m.answer path = .ok e) :
    (m.after (.analyze path)).answer path = .ok e := by
  have ha := analyzed_answer hc path
  have hlocate : (m.after (.analyze path)).locate path = m.locate path := rfl
  rw [answer, hlocate]
  generalize m.locate path = found at ha
  generalize (m.after (.analyze path)).store = t at ha
  rw [h] at ha
  cases ha with
  | kept hlive => exact congrArg Prod.fst ((Store.Analyzed.kept hlive).eq hc)
  | built hnone hbuild hclock =>
    refine congrArg Prod.fst (Store.Analyzed.eq rfl (.kept (e := ⟨_, m.store.now + c.ttl⟩) ?_))
    rw [ExpiringCache.live?_put, c.ttl_get, if_pos rfl, if_pos (Nat.lt_add_of_pos_right hpos)]

/-- The first analysis builds the first edition. -/
theorem builds_sampleStart : ∃ e, sampleStart.Builds "/repo" (.ofString "/repo") e ∧
    (sampleStart.after (.analyze "/repo")).store.built = 1 := by
  have hbuild := sampleStart.store.analyzer.build_emptyDirectory "/repo"
  have hbuilt : sampleStart.store.Analyzed ⟨10, []⟩ "/repo" (.ok ⟨"/repo", .emptyDirectory⟩)
      (.ok ⟨1, _⟩) _ := .built rfl hbuild (by decide)
  have hstore := hbuilt.eq rfl
  exact ⟨⟨1, _⟩, ⟨⟨_, rfl, rfl, hbuild⟩, congrArg Prod.fst hstore, rfl⟩,
    congrArg (·.2.built) hstore⟩

/-- The root is gone when it is invalidated, and back after that. -/
def sampleMissed : List Event :=
  [.step (.analyze "/repo"), .step (.change fun _ => .error .notFound), .invalidate "/repo",
    .step (.change sampleStart.locate)]

/-- The first edition still stands after an invalidation that missed its root. -/
theorem answer_undropped_sampleMissed : (∀ c, sampleStart.store.cache = some c → c.entries = []) ∧
    ∃ e, (sampleStart.play sampleMissed).answer "/repo" = .ok e ∧ e.number = 1 ∧
      sampleStart.Stands (sampleMissed ++ [.step (.analyze "/repo")]) (.ofString "/repo") e := by
  have hempty : ∀ c, sampleStart.store.cache = some c → c.entries = [] := by
    intro c hc
    cases hc
    rfl
  obtain ⟨e, hbuilds, -⟩ := builds_sampleStart
  have hagain := answer_again rfl (by decide) hbuilds.answered
  obtain ⟨l, hl, hstands⟩ :=
    (answer_undropped sampleStart hempty sampleMissed "/repo").stands e hagain
  cases hl
  exact ⟨hempty, e, hagain, hbuilds.new, hstands⟩

/-- An invalidation of a root does not always make the next analysis of it build. -/
theorem not_renewed_by_every_invalidation :
    ¬ ∀ (start : Moment) (before : List Event) (path : String) (e : Edition),
      (∀ c, start.store.cache = some c → c.entries = []) →
      (start.play before).answer path = .ok e →
      ∃ earlier p since, before ++ [.step (.analyze path)] = earlier ++ .step (.analyze p) :: since ∧
        (∃ root, (start.play earlier).Builds p root e) ∧
        .step .clear ∉ since ∧ .invalidate path ∉ since := by
  intro hall
  obtain ⟨e, hbuilds, hbuilt⟩ := builds_sampleStart
  have hagain := answer_again rfl (by decide) hbuilds.answered
  obtain ⟨earlier, p, since, hsplit, ⟨root, hlater⟩, -, hmissed⟩ :=
    hall sampleStart sampleMissed "/repo" e (fun c hc => by cases hc; rfl) hagain
  -- Only the last analysis comes after the invalidation.
  have hlast : earlier = sampleMissed := by
    rcases earlier with _ | ⟨_, _ | ⟨_, _ | ⟨_, _ | ⟨_, _ | ⟨_, _⟩⟩⟩⟩⟩ <;>
      simp only [sampleMissed, List.cons_append, List.nil_append, List.cons.injEq, reduceCtorEq,
        Event.step.injEq, false_and, and_false] at hsplit
    · rw [← hsplit.2] at hmissed
      simp at hmissed
    · obtain ⟨rfl, rfl, rfl, rfl, -⟩ := hsplit
      rfl
    · simp at hsplit
  subst hlast
  have hsame : (sampleStart.play sampleMissed).store.built = 1 := hbuilt
  have hnew : e.number = (sampleStart.play sampleMissed).store.built + 1 := hlater.new
  have hfirst : e.number = 1 := hbuilds.new
  omega

end Moment
end Dossier
