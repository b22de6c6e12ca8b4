import Dossier.Proofs.Analysis.Build
import Dossier.Proofs.Cache.History
import Dossier.Proofs.Session.Runs

/-!
# Answers by history

What a store answers is decided by what happened before: by when a root was last built, what has
been cleared since, and how much time has passed. `Kept` says this of the steps of a run and what
they were answered alone. That the live part of the cache is just this (`Mirrors`) is kept by every
step, so an analysis gives again what is kept and builds anew what is not (`answer_faithful`).
-/

set_option autoImplicit false

namespace Dossier

/-- The time that passes in a run. -/
def elapsed : List Step → Nat
  | [] => 0
  | .advance nanos :: steps => nanos + elapsed steps
  | _ :: steps => elapsed steps

theorem elapsed_append (front rest : List Step) :
    elapsed (front ++ rest) = elapsed front + elapsed rest := by
  induction front with
  | nil => exact (Nat.zero_add _).symm
  | cons step front ih =>
    cases step <;> simp only [List.cons_append, elapsed, ih, Nat.add_assoc]

namespace Moment

/-- That an analysis of a path builds what is at a root, and answers with the new edition. -/
structure Builds (m : Moment) (path : String) (root : Location) (e : Edition) : Prop where
  found : ∃ l, m.locate path = .ok l ∧ Location.ofString l.path = root ∧
    m.store.analyzer.build l = .ok e.snapshot
  answered : m.answer path = .ok e
  /-- As many editions as were built before have the lesser numbers. -/
  new : e.number = m.store.built + 1

/-- That an edition is the latest that a run has built of a root, with the steps since then. -/
structure Latest (start : Moment) (before : List Step) (root : Location) (e : Edition)
    (since : List Step) : Prop where
  built : ∃ earlier path, before = earlier ++ .analyze path :: since ∧
    (start.afterAll earlier).Builds path root e
  last : ∀ front path rest, before = front ++ .analyze path :: rest →
    rest.length < since.length → ∀ other, ¬ (start.afterAll front).Builds path root other

/-- That the latest edition of a root is still to be given again. -/
structure Kept (start : Moment) (ttl : Nat) (before : List Step) (root : Location) (e : Edition)
    (since : List Step) : Prop where
  latest : start.Latest before root e since
  uncleared : .clear ∉ since
  recent : elapsed since < ttl

variable {start : Moment} {before : List Step} {root : Location} {e : Edition}
  {since : List Step} {step : Step} {ttl : Nat}

/-! ## One more step -/

theorem not_latest_nil : ¬ start.Latest [] root e since := by
  rintro ⟨⟨earlier, path, hsplit, -⟩, -⟩
  cases earlier <;> cases hsplit

/-- The latest edition after one more step is built by this step, or was the latest already. -/
theorem latest_snoc : start.Latest (before ++ [step]) root e since ↔
    (since = [] ∧ ∃ path, step = .analyze path ∧ (start.afterAll before).Builds path root e) ∨
      ∃ rest, since = rest ++ [step] ∧ start.Latest before root e rest ∧
        ∀ path, step = .analyze path → ∀ other, ¬ (start.afterAll before).Builds path root other := by
  constructor
  · rintro ⟨⟨earlier, path, hsplit, hbuilds⟩, hlast⟩
    rcases snoc_eq_append_cons.mp hsplit with ⟨rfl, rfl, hstep⟩ | ⟨rest, rfl, rfl⟩
    · exact .inl ⟨rfl, path, hstep, hbuilds⟩
    · refine .inr ⟨rest, rfl, ⟨⟨earlier, path, rfl, hbuilds⟩, ?_⟩, ?_⟩
      · intro front p later hfront hlength
        refine hlast front p (later ++ [step]) ?_ ?_
        · rw [hfront, List.append_assoc, List.cons_append]
        · simpa using hlength
      · intro p hp
        exact hlast _ p [] (by rw [hp]) (by simp)
  · rintro (⟨rfl, path, rfl, hbuilds⟩ | ⟨rest, rfl, ⟨⟨earlier, path, rfl, hbuilds⟩, hlast⟩, hstep⟩)
    · exact ⟨⟨before, path, rfl, hbuilds⟩, fun _ _ _ _ h => absurd h (Nat.not_lt_zero _)⟩
    · refine ⟨⟨earlier, path, by simp, hbuilds⟩, fun front p later hsplit hlength => ?_⟩
      rcases snoc_eq_append_cons.mp hsplit with ⟨-, rfl, hp⟩ | ⟨later, rfl, hfront⟩
      · exact hstep p hp
      · refine hlast front p later hfront ?_
        simpa using hlength

theorem kept_snoc (hstep : ∀ path, step = .analyze path →
      ∀ other, ¬ (start.afterAll before).Builds path root other) :
    start.Kept ttl (before ++ [step]) root e since ↔
      ∃ rest, since = rest ++ [step] ∧ step ≠ .clear ∧ start.Kept ttl before root e rest ∧
        elapsed rest + elapsed [step] < ttl := by
  constructor
  · rintro ⟨hlatest, hclear, hrecent⟩
    rcases latest_snoc.mp hlatest with ⟨-, path, rfl, hbuilds⟩ | ⟨rest, rfl, hlatest, -⟩
    · exact absurd hbuilds (hstep path rfl e)
    · rw [elapsed_append] at hrecent
      rw [List.mem_append, List.mem_singleton, not_or] at hclear
      exact ⟨rest, rfl, fun h => hclear.2 h.symm, ⟨hlatest, hclear.1, by omega⟩, hrecent⟩
  · rintro ⟨rest, rfl, hne, ⟨hlatest, hclear, -⟩, hrecent⟩
    refine ⟨latest_snoc.mpr (.inr ⟨rest, rfl, hlatest, hstep⟩), ?_, by rwa [elapsed_append]⟩
    rw [List.mem_append, List.mem_singleton, not_or]
    exact ⟨hclear, fun h => hne h.symm⟩

theorem kept_of_builds {path : String} {new : Edition}
    (hbuilds : (start.afterAll before).Builds path root new) :
    start.Kept ttl (before ++ [.analyze path]) root e since ↔ e = new ∧ since = [] ∧ 0 < ttl := by
  constructor
  · rintro ⟨hlatest, -, hrecent⟩
    rcases latest_snoc.mp hlatest with ⟨rfl, p, hp, hthis⟩ | ⟨rest, -, -, hnone⟩
    · cases hp
      exact ⟨Except.ok.inj (hthis.answered.symm.trans hbuilds.answered), rfl, hrecent⟩
    · exact absurd hbuilds (hnone path rfl new)
  · rintro ⟨rfl, rfl, hrecent⟩
    exact ⟨latest_snoc.mpr (.inl ⟨rfl, path, rfl, hbuilds⟩), List.not_mem_nil, hrecent⟩

/-! ## The cache mirrors the history -/

/-- That what is live in the cache after a run is what the run has kept. -/
structure Mirrors (start : Moment) (ttl : Nat) (before : List Step)
    (c : ExpiringCache Location Edition) : Prop where
  analyzer : (start.afterAll before).store.analyzer = start.store.analyzer
  now : (start.afterAll before).store.now = start.store.now + elapsed before
  cache : (start.afterAll before).store.cache = some c
  span : c.ttl = ttl
  live : ∀ root e expires,
    c.live? (start.afterAll before).store.now root = some ⟨e, expires⟩ ↔
      ∃ since, start.Kept ttl before root e since ∧
        expires + elapsed since = (start.afterAll before).store.now + ttl
  numbered : ∀ root stored, c.live? (start.afterAll before).store.now root = some stored →
    stored.value.number ≤ (start.afterAll before).store.built

variable {c c' : ExpiringCache Location Edition}

theorem mirrors_nil (hcache : start.store.cache = some ⟨ttl, []⟩) :
    start.Mirrors ttl [] ⟨ttl, []⟩ where
  analyzer := rfl
  now := rfl
  cache := hcache
  span := rfl
  live root e expires := by
    refine iff_of_false (by simp [ExpiringCache.live?, ExpiringCache.stored?]) ?_
    rintro ⟨since, hkept, -⟩
    exact not_latest_nil hkept.latest
  numbered root stored h := by simp [ExpiringCache.live?, ExpiringCache.stored?] at h

/-- A root that a step does not build keeps what does not expire in it. -/
theorem Mirrors.live_snoc (h : start.Mirrors ttl before c) (hne : step ≠ .clear)
    (hstep : ∀ path, step = .analyze path →
      ∀ other, ¬ (start.afterAll before).Builds path root other)
    {now : Nat} (hnow : now = (start.afterAll before).store.now + elapsed [step]) {expires : Nat} :
    c.live? now root = some ⟨e, expires⟩ ↔
      ∃ since, start.Kept ttl (before ++ [step]) root e since ∧
        expires + elapsed since = now + ttl := by
  have hle : (start.afterAll before).store.now ≤ now := by omega
  rw [c.live?_later hle, Option.filter_eq_some_iff, h.live, decide_eq_true_eq]
  constructor
  · rintro ⟨⟨since, hkept, hexpires⟩, hlater⟩
    refine ⟨since ++ [step], (kept_snoc hstep).mpr ⟨since, rfl, hne, hkept, ?_⟩, ?_⟩
    · simp only at hlater
      omega
    · rw [elapsed_append]
      omega
  · rintro ⟨since, hkept, hexpires⟩
    obtain ⟨rest, rfl, -, hkept, hrecent⟩ := (kept_snoc hstep).mp hkept
    rw [elapsed_append] at hexpires
    refine ⟨⟨rest, hkept, by omega⟩, ?_⟩
    simp only
    omega

/-- A step that builds nothing and drops nothing that is live. -/
theorem Mirrors.unbuilt (h : start.Mirrors ttl before c) (hne : step ≠ .clear)
    (hstep : ∀ path, step = .analyze path →
      ∀ root other, ¬ (start.afterAll before).Builds path root other)
    (hstore : ((start.afterAll before).after step).store =
      { (start.afterAll before).store with
        now := (start.afterAll before).store.now + elapsed [step]
        cache := some c' })
    (hspan : c'.ttl = c.ttl)
    (hlive : ∀ later root, (start.afterAll before).store.now ≤ later →
      c'.live? later root = c.live? later root) :
    start.Mirrors ttl (before ++ [step]) c' := by
  have hle : (start.afterAll before).store.now ≤
    (start.afterAll before).store.now + elapsed [step] := Nat.le_add_right _ _
  refine ⟨?_, ?_, ?_, hspan.trans h.span, fun root e expires => ?_, fun root stored hstored => ?_⟩
  · rw [afterAll_snoc, hstore]
    exact h.analyzer
  · rw [afterAll_snoc, hstore, elapsed_append, ← Nat.add_assoc, ← h.now]
  · rw [afterAll_snoc, hstore]
  · rw [afterAll_snoc, hstore, hlive _ _ hle]
    exact h.live_snoc hne (fun path hpath => hstep path hpath root) rfl
  · rw [afterAll_snoc, hstore] at hstored ⊢
    rw [hlive _ _ hle, c.live?_later hle, Option.filter_eq_some_iff] at hstored
    exact h.numbered root stored hstored.1

theorem Mirrors.clear (h : start.Mirrors ttl before c) :
    start.Mirrors ttl (before ++ [.clear]) c.clear := by
  refine ⟨?_, ?_, ?_, h.span, fun root e expires => ?_, fun root stored hstored => ?_⟩
  · rw [afterAll_snoc]
    exact h.analyzer
  · rw [afterAll_snoc, elapsed_append]
    exact h.now
  · rw [afterAll_snoc]
    simp [after, Store.clear, h.cache]
  · refine iff_of_false (by simp [ExpiringCache.live?_clear]) ?_
    rintro ⟨since, hkept, -⟩
    obtain ⟨rest, -, hne, -⟩ := (kept_snoc fun path hpath => by cases hpath).mp hkept
    exact hne rfl
  · rw [ExpiringCache.live?_clear] at hstored
    cases hstored

/-- A new edition takes the place of what was live of its root, and of nothing else. -/
theorem Mirrors.built (h : start.Mirrors ttl before c) {path : String} {l : Located}
    {snapshot : Snapshot} (hfound : (start.afterAll before).locate path = .ok l)
    (hbuild : (start.afterAll before).store.analyzer.build l = .ok snapshot)
    (hanswer : (start.afterAll before).answer path =
      .ok ⟨(start.afterAll before).store.built + 1, snapshot⟩)
    (hstore : ((start.afterAll before).after (.analyze path)).store =
      { (start.afterAll before).store with
        built := (start.afterAll before).store.built + 1
        cache := some c' })
    (hspan : c'.ttl = c.ttl)
    (hlive : ∀ root, c'.live? (start.afterAll before).store.now root =
      if root = .ofString l.path then
        if (start.afterAll before).store.now < (start.afterAll before).store.now + ttl then
          some ⟨⟨(start.afterAll before).store.built + 1, snapshot⟩,
            (start.afterAll before).store.now + ttl⟩
        else none
      else c.live? (start.afterAll before).store.now root) :
    start.Mirrors ttl (before ++ [.analyze path]) c' := by
  have hbuilds : (start.afterAll before).Builds path (.ofString l.path)
      ⟨(start.afterAll before).store.built + 1, snapshot⟩ :=
    ⟨⟨l, hfound, rfl, hbuild⟩, hanswer, rfl⟩
  refine ⟨?_, ?_, ?_, hspan.trans h.span, fun root e expires => ?_, fun root stored hstored => ?_⟩
  · rw [afterAll_snoc, hstore]
    exact h.analyzer
  · rw [afterAll_snoc, hstore, elapsed_append]
    exact h.now
  · rw [afterAll_snoc, hstore]
  · rw [afterAll_snoc, hstore, hlive]
    split
    · next hroot =>
      subst hroot
      simp only [kept_of_builds hbuilds]
      constructor
      · intro hsome
        split at hsome
        · next hlt =>
          cases hsome
          exact ⟨[], ⟨rfl, rfl, by omega⟩, rfl⟩
        · cases hsome
      · rintro ⟨since, ⟨rfl, rfl, hpos⟩, hexpires⟩
        rw [if_pos (by omega)]
        simp only [elapsed, Nat.add_zero] at hexpires
        rw [hexpires]
    · next hroot =>
      have hother : ∀ p, Step.analyze path = .analyze p →
          ∀ other, ¬ (start.afterAll before).Builds p root other := by
        rintro p hp other hother
        cases hp
        obtain ⟨l', hl', rfl, -⟩ := hother.found
        rw [hfound] at hl'
        cases hl'
        exact hroot rfl
      exact h.live_snoc (by simp) hother rfl
  · rw [afterAll_snoc, hstore] at hstored ⊢
    rw [hlive] at hstored
    split at hstored
    · split at hstored
      · cases hstored
        exact Nat.le_refl _
      · cases hstored
    · exact Nat.le_succ_of_le (h.numbered root stored hstored)

/-- Whether an analysis builds or not, the cache mirrors the history after it. -/
theorem Mirrors.analyze (h : start.Mirrors ttl before c) (path : String)
    (hclock : Clock.Shows ((start.afterAll before).store.now + ttl)) :
    ∃ c', start.Mirrors ttl (before ++ [.analyze path]) c' := by
  have hs := analyzed_answer h.cache path
  generalize hfound : (start.afterAll before).locate path = found at hs
  generalize hstore : ((start.afterAll before).after (.analyze path)).store = s' at hs
  generalize hanswer : (start.afterAll before).answer path = answer at hs
  have hunbuilt : ∀ i, answer = .error i → ∀ p, Step.analyze path = .analyze p →
      ∀ root other, ¬ (start.afterAll before).Builds p root other := by
    rintro i rfl p hp root other hbuilds
    cases hp
    cases hanswer.symm.trans hbuilds.answered
  cases hs with
  | unlocated fault =>
    refine ⟨c, h.unbuilt (by simp) (hunbuilt _ rfl) ?_ rfl fun _ _ _ => rfl⟩
    rw [hstore, ← h.cache]
    rfl
  | @kept l e hlive =>
    refine ⟨c, h.unbuilt (by simp) ?_ ?_ rfl fun _ _ _ => rfl⟩
    · rintro p hp root other hbuilds
      cases hp
      -- What is given again has a number already.
      have hnumber := h.numbered _ _ hlive
      obtain rfl := Except.ok.inj (hanswer.symm.trans hbuilds.answered)
      have hnew := hbuilds.new
      omega
    · rw [hstore, ← h.cache]
      rfl
  | refused hnone hbuild =>
    exact ⟨_, h.unbuilt (by simp) (hunbuilt _ rfl) hstore (c.ttl_get _ _) fun _ _ hle =>
      c.live?_get hle _ _⟩
  | built hnone hbuild =>
    refine ⟨_, h.built hfound hbuild hanswer hstore (c.ttl_get _ _) fun root => ?_⟩
    rw [ExpiringCache.live?_put, c.ttl_get, h.span, c.live?_get (Nat.le_refl _)]
  | overflow hnone hbuild hover =>
    rw [h.span] at hover
    exact absurd hclock hover

/-- **The cache mirrors the history of every run.** -/
theorem mirrors_afterAll (hcache : start.store.cache = some ⟨ttl, []⟩) (before : List Step)
    (hclock : Clock.Shows (start.store.now + elapsed before + ttl)) :
    ∃ c, start.Mirrors ttl before c := by
  induction before using List.reverseRecOn with
  | nil => exact ⟨_, mirrors_nil hcache⟩
  | append_singleton before step ih =>
    rw [elapsed_append] at hclock
    obtain ⟨c, h⟩ := ih (hclock.of_le (by omega))
    cases step with
    | analyze path => exact h.analyze path (hclock.of_le (by rw [h.now]; omega))
    | clear => exact ⟨_, h.clear⟩
    | advance nanos =>
      refine ⟨c, h.unbuilt (by simp) (fun _ hp => by cases hp) ?_ rfl fun _ _ _ => rfl⟩
      rw [← h.cache]
      rfl
    | change locate =>
      refine ⟨c, h.unbuilt (by simp) (fun _ hp => by cases hp) ?_ rfl fun _ _ _ => rfl⟩
      rw [← h.cache]
      rfl

/-! ## Answers -/

/-- That an analysis after a run is answered by what the run has kept, or else by what is there. -/
structure Faithful (start : Moment) (ttl : Nat) (before : List Step) (path : String) : Prop where
  /-- A path that leads nowhere has no snapshot, whatever is kept. -/
  lost : ∀ fault, (start.afterAll before).locate path = .error fault →
    (start.afterAll before).answer path = .error (.failed (.root path fault))
  /-- What is kept of the root is given again. -/
  again : ∀ l e since, (start.afterAll before).locate path = .ok l →
    start.Kept ttl before (.ofString l.path) e since →
      (start.afterAll before).answer path = .ok e
  /-- When nothing is kept of the root, what is there now is built. -/
  anew : ∀ l, (start.afterAll before).locate path = .ok l →
    (∀ e since, ¬ start.Kept ttl before (.ofString l.path) e since) →
      (∀ s, start.store.analyzer.build l = .ok s → ∃ e, e.snapshot = s ∧
        (start.afterAll before).Builds path (.ofString l.path) e) ∧
      ∀ err, start.store.analyzer.build l = .error err →
        (start.afterAll before).answer path = .error (.failed err)
  /-- All editions that were given before have lesser numbers than the next one that is built. -/
  distinct : ∀ front p rest e, before = front ++ .analyze p :: rest →
    (start.afterAll front).answer p = .ok e → e.number ≤ (start.afterAll before).store.built
  /-- An analysis that fails changes no answer of any steps that follow. -/
  silent : ∀ i, (start.afterAll before).answer path = .error i → ∀ later,
    ((start.afterAll before).after (.analyze path)).answers later =
      (start.afterAll before).answers later

/-- Editions are numbered as they are built, so no answer is ahead of the number of editions. -/
theorem Mirrors.number_le (h : start.Mirrors ttl before c) {path : String}
    (hanswer : (start.afterAll before).answer path = .ok e) :
    e.number ≤ ((start.afterAll before).after (.analyze path)).store.built := by
  have hs := analyzed_answer h.cache path
  generalize hfound : (start.afterAll before).locate path = found at hs
  generalize hstore : ((start.afterAll before).after (.analyze path)).store = s' at hs ⊢
  rw [hanswer] at hs
  cases hs with
  | kept hlive => exact h.numbered _ _ hlive
  | built => exact Nat.le_refl _

/-- **Every analysis of every run is answered faithfully**, unless the clock overflows. -/
theorem answer_faithful (start : Moment) (ttl : Nat) (hcache : start.store.cache = some ⟨ttl, []⟩)
    (before : List Step) (path : String)
    (hclock : Clock.Shows (start.store.now + elapsed before + ttl)) :
    start.Faithful ttl before path := by
  obtain ⟨c, h⟩ := mirrors_afterAll hcache before hclock
  refine { lost := fun fault hfault => ?_, again := fun l e since hl hkept => ?_,
           anew := fun l hl hnone => ?_, distinct := fun front p rest e hsplit he => ?_,
           silent := fun i hi later => ?_ }
  · unfold answer
    rw [hfault]
    rfl
  · have hrecent := hkept.recent
    have hlive := (h.live _ e ((start.afterAll before).store.now + ttl - elapsed since)).mpr
      ⟨since, hkept, by omega⟩
    unfold answer
    rw [hl, (Store.Analyzed.kept hlive).eq h.cache]
  · have hlive : c.live? (start.afterAll before).store.now (.ofString l.path) = none := by
      refine Option.eq_none_iff_forall_ne_some.mpr fun stored hstored => ?_
      obtain ⟨since, hkept, -⟩ := (h.live _ stored.value stored.expires).mp hstored
      exact hnone _ _ hkept
    rw [← h.analyzer]
    refine ⟨fun s hs => ?_, fun err herr => ?_⟩
    · have hnow : Clock.Shows ((start.afterAll before).store.now + c.ttl) := by
        rw [h.now, h.span]
        exact hclock
      refine ⟨⟨_, s⟩, rfl, ⟨l, hl, rfl, hs⟩, ?_, rfl⟩
      unfold answer
      rw [hl, (Store.Analyzed.built hlive hs hnow).eq h.cache]
    · unfold answer
      rw [hl, (Store.Analyzed.refused hlive herr).eq h.cache]
  · subst hsplit
    rw [elapsed_append] at hclock
    obtain ⟨d, hd⟩ := mirrors_afterAll hcache front (hclock.of_le (by omega))
    rw [afterAll_append]
    exact Nat.le_trans (hd.number_le he) (built_le_afterAll _ rest)
  · refine answers_congr ?_ ?_ later
    · rfl
    · exact Store.alike_of_error h.cache hi

/-- A store that keeps snapshots for ten nanoseconds, over a repository without files, a second
after the origin of the clock. -/
def sampleStart : Moment where
  store :=
    { analyzer := .ofSettings {}, cache := some ⟨10, []⟩, now := Duration.ofSeconds 1 }
  locate := fun _ => .ok ⟨"/repo", .emptyDirectory⟩

/-- Nine nanoseconds after an analysis, when the directory can no longer be listed. -/
def sampleRun : List Step :=
  [.analyze "/repo", .advance 9,
    .change fun _ => .ok ⟨"/repo", .directory { contents := some .denied } []⟩]

/-- What is built first is the latest edition all along the run. -/
theorem latest_sampleRun (h : sampleStart.Builds "/repo" (.ofString "/repo") e) :
    sampleStart.Latest sampleRun (.ofString "/repo") e sampleRun.tail := by
  have hbuilt : sampleStart.Latest ([] ++ [.analyze "/repo"]) (.ofString "/repo") e [] :=
    latest_snoc.mpr (.inl ⟨rfl, _, rfl, h⟩)
  have hnine : sampleStart.Latest [.analyze "/repo", .advance 9] (.ofString "/repo") e
      [.advance 9] := latest_snoc.mpr (.inr ⟨[], rfl, hbuilt, fun _ h => by cases h⟩)
  exact latest_snoc.mpr (.inr ⟨[.advance 9], rfl, hnine, fun _ h => by cases h⟩)

/-- After ten nanoseconds nothing is kept. -/
theorem not_kept_sampleRun (since : List Step) :
    ¬ sampleStart.Kept 10 (sampleRun ++ [.advance 1]) root e since := by
  intro hkept
  obtain ⟨earlier, path, hsplit, -⟩ := hkept.latest.built
  -- Only the first step is an analysis, so all the time has passed since then.
  have hsince : since = sampleRun.tail ++ [.advance 1] := by
    rcases earlier with _ | ⟨_, _ | ⟨_, _ | ⟨_, _ | ⟨_, _⟩⟩⟩⟩ <;>
      simp only [sampleRun, List.cons_append, List.nil_append, List.cons.injEq, reduceCtorEq,
        false_and, and_false] at hsplit
    · exact hsplit.2.symm
    · simp at hsplit
  have hrecent := hkept.recent
  rw [hsince] at hrecent
  exact absurd hrecent (by decide)

/-- What was built nine nanoseconds ago is given again, under another spelling of the root; after
ten the directory is walked, and that fails. -/
theorem answer_faithful_sampleRun :
    sampleStart.store.cache = some ⟨10, []⟩ ∧
      Clock.Shows (sampleStart.store.now + elapsed (sampleRun ++ [.advance 1]) + 10) ∧
      (∃ e, sampleStart.answer "/repo" = .ok e ∧
        (sampleStart.afterAll sampleRun).answer "/repo/." = .ok e) ∧
      (sampleStart.afterAll (sampleRun ++ [.advance 1])).answer "/repo" =
        .error (.failed (.walk "/repo" .denied)) := by
  have hclock : Clock.Shows (sampleStart.store.now + elapsed (sampleRun ++ [.advance 1]) + 10) := by
    decide
  have hfirst := answer_faithful sampleStart 10 rfl [] "/repo" (by decide)
  have hkept := answer_faithful sampleStart 10 rfl sampleRun "/repo/." (by decide)
  have hlast := answer_faithful sampleStart 10 rfl (sampleRun ++ [.advance 1]) "/repo" hclock
  obtain ⟨e, -, hbuilds⟩ := (hfirst.anew _ rfl fun _ _ h => not_latest_nil h.latest).1 _
    (Analyzer.build_emptyDirectory _ _)
  refine ⟨rfl, hclock, ⟨e, hbuilds.answered, ?_⟩, ?_⟩
  · refine hkept.again _ e sampleRun.tail rfl ⟨latest_sampleRun hbuilds, ?_, by decide⟩
    simp [sampleRun]
  · exact (hlast.anew _ rfl fun _ _ => not_kept_sampleRun _).2 _
      (Analyzer.build_of_unlisted rfl rfl)

end Moment
end Dossier
