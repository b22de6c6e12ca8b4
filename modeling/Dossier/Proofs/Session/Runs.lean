import Dossier.Proofs.Cache.Expiring
import Dossier.Session.Store
import Mathlib.Data.List.Induction

/-!
# Runs of a store

A store is asked for snapshots while time passes and the file system changes under it. `Moment` is
the store with the file system as it is, `Step` what can happen, and `answers` what comes out of a
run. `Analyzed` says once what an analysis can lead to. What a store shows of itself is what is live
in its cache: two stores that are `Alike` in this answer alike for ever after, and a failed analysis
leaves a store that is alike.
-/

set_option autoImplicit false

namespace Dossier

namespace Store

/-- What an analysis can lead to when snapshots are kept in `c`: the answer, and the store after. -/
inductive Analyzed (s : Store) (c : ExpiringCache Location Edition) (path : String) :
    Except Fault Located → Except Interruption Edition → Store → Prop where
  /-- The path leads nowhere. -/
  | unlocated (fault : Fault) :
      Analyzed s c path (.error fault) (.error (.failed (.root path fault))) s
  /-- A live snapshot of the root is given again. -/
  | kept {l : Located} {e : Stored Edition}
      (hlive : c.live? s.now (.ofString l.path) = some e) :
      Analyzed s c path (.ok l) (.ok e.value) s
  /-- There is no snapshot of what is at the root. -/
  | refused {l : Located} {err : AnalysisError}
      (hnone : c.live? s.now (.ofString l.path) = none)
      (hbuild : s.analyzer.build l = .error err) :
      Analyzed s c path (.ok l) (.error (.failed err))
        { s with cache := some (c.get s.now (.ofString l.path)).2 }
  | built {l : Located} {snapshot : Snapshot}
      (hnone : c.live? s.now (.ofString l.path) = none)
      (hbuild : s.analyzer.build l = .ok snapshot)
      (hclock : Clock.Shows (s.now + c.ttl)) :
      Analyzed s c path (.ok l) (.ok ⟨s.built + 1, snapshot⟩)
        { s with
          built := s.built + 1
          cache := some ((c.get s.now (.ofString l.path)).2.put s.now (.ofString l.path)
            ⟨s.built + 1, snapshot⟩) }
  /-- The new snapshot cannot be stored. -/
  | overflow {l : Located} {snapshot : Snapshot}
      (hnone : c.live? s.now (.ofString l.path) = none)
      (hbuild : s.analyzer.build l = .ok snapshot)
      (hclock : ¬ Clock.Shows (s.now + c.ttl)) :
      Analyzed s c path (.ok l) (.error .clockOverflow)
        { s with cache := some (c.get s.now (.ofString l.path)).2 }

variable {s t : Store} {c d : ExpiringCache Location Edition}

/-- Where nothing is live, a new snapshot is made. -/
theorem analyze_of_none (hc : s.cache = some c) {l : Located}
    (hnone : c.live? s.now (.ofString l.path) = none) (path : String) :
    s.analyze path (.ok l) =
      { s with cache := some (c.get s.now (.ofString l.path)).2 }.renew l := by
  have hget : (c.get s.now (.ofString l.path)).1 = none := by rw [c.get_fst, hnone]; rfl
  unfold analyze lookup?
  simp only [hc, hget]

theorem Analyzed.eq {path : String} {found : Except Fault Located}
    {answer : Except Interruption Edition} {s' : Store} (hc : s.cache = some c)
    (h : Analyzed s c path found answer s') : s.analyze path found = (answer, s') := by
  cases h with
  | unlocated fault => rfl
  | @kept l e hlive =>
    have hget : (c.get s.now (.ofString l.path)).1 = some e.value := by rw [c.get_fst, hlive]; rfl
    unfold analyze lookup?
    simp only [hc, hget, ExpiringCache.get_snd_of_live hlive]
    rw [← hc]
  | refused hnone hbuild =>
    rw [analyze_of_none hc hnone, renew]
    simp only [hbuild]
  | built hnone hbuild hclock =>
    rw [analyze_of_none hc hnone, renew]
    simp only [hbuild, keep?, ExpiringCache.insert?, ExpiringCache.ttl_get, if_pos hclock,
      Option.map_some]
  | overflow hnone hbuild hclock =>
    rw [analyze_of_none hc hnone, renew]
    simp only [hbuild, keep?, ExpiringCache.insert?, ExpiringCache.ttl_get, if_neg hclock,
      Option.map_none]

theorem analyzed_analyze (hc : s.cache = some c) (path : String) (found : Except Fault Located) :
    Analyzed s c path found (s.analyze path found).1 (s.analyze path found).2 := by
  suffices h : ∃ answer s', Analyzed s c path found answer s' by
    obtain ⟨answer, s', h⟩ := h
    rw [h.eq hc]
    exact h
  cases found with
  | error fault => exact ⟨_, _, .unlocated fault⟩
  | ok l =>
    cases hlive : c.live? s.now (.ofString l.path) with
    | some e => exact ⟨_, _, .kept hlive⟩
    | none =>
      cases hbuild : s.analyzer.build l with
      | error err => exact ⟨_, _, .refused hlive hbuild⟩
      | ok snapshot =>
        by_cases hclock : Clock.Shows (s.now + c.ttl)
        · exact ⟨_, _, .built hlive hbuild hclock⟩
        · exact ⟨_, _, .overflow hlive hbuild hclock⟩

/-- What an analysis can lead to when no snapshots are kept. -/
inductive Renewed (s : Store) (path : String) :
    Except Fault Located → Except Interruption Edition → Store → Prop where
  | unlocated (fault : Fault) : Renewed s path (.error fault) (.error (.failed (.root path fault))) s
  | refused {l : Located} {err : AnalysisError} (hbuild : s.analyzer.build l = .error err) :
      Renewed s path (.ok l) (.error (.failed err)) s
  | built {l : Located} {snapshot : Snapshot} (hbuild : s.analyzer.build l = .ok snapshot) :
      Renewed s path (.ok l) (.ok ⟨s.built + 1, snapshot⟩) { s with built := s.built + 1 }

theorem renewed_analyze (hc : s.cache = none) (path : String) (found : Except Fault Located) :
    Renewed s path found (s.analyze path found).1 (s.analyze path found).2 := by
  cases found with
  | error fault => exact .unlocated fault
  | ok l =>
    unfold analyze lookup? renew keep?
    simp only [hc]
    cases hbuild : s.analyzer.build l with
    | error err => exact .refused hbuild
    | ok snapshot =>
      simp only
      rw [← hc]
      exact .built hbuild

theorem built_le_analyze (s : Store) (path : String) (found : Except Fault Located) :
    s.built ≤ (s.analyze path found).2.built := by
  cases hc : s.cache with
  | some c =>
    have hs := analyzed_analyze hc path found
    generalize (s.analyze path found).1 = answer at hs
    generalize (s.analyze path found).2 = s' at hs ⊢
    cases hs with
    | unlocated | kept | refused | overflow => exact Nat.le_refl _
    | built => exact Nat.le_succ _
  | none =>
    have hs := renewed_analyze hc path found
    generalize (s.analyze path found).1 = answer at hs
    generalize (s.analyze path found).2 = s' at hs ⊢
    cases hs with
    | unlocated | refused => exact Nat.le_refl _
    | built => exact Nat.le_succ _

/-- An analysis leaves the analyzer, the time and the time to live as they are. -/
theorem frame_analyze (s : Store) (path : String) (found : Except Fault Located) :
    (s.analyze path found).2.analyzer = s.analyzer ∧ (s.analyze path found).2.now = s.now ∧
      (s.analyze path found).2.cache.map (·.ttl) = s.cache.map (·.ttl) := by
  cases hc : s.cache with
  | some c =>
    have hs := analyzed_analyze hc path found
    generalize (s.analyze path found).1 = answer at hs
    generalize (s.analyze path found).2 = s' at hs ⊢
    cases hs with
    | unlocated | kept => exact ⟨rfl, rfl, congrArg (Option.map (·.ttl)) hc⟩
    | refused | overflow | built => exact ⟨rfl, rfl, congrArg some (c.ttl_get _ _)⟩
  | none =>
    have hs := renewed_analyze hc path found
    generalize (s.analyze path found).1 = answer at hs
    generalize (s.analyze path found).2 = s' at hs ⊢
    cases hs with
    | unlocated | refused | built => exact ⟨rfl, rfl, congrArg (Option.map (·.ttl)) hc⟩

/-! ## Stores that show the same -/

/-- That two caches give out the same from a moment on. -/
structure SameLive (now : Nat) (c d : ExpiringCache Location Edition) : Prop where
  ttl : c.ttl = d.ttl
  live : ∀ key, c.live? now key = d.live? now key

/-- That two stores differ at most in what has expired. -/
structure Alike (s t : Store) : Prop where
  analyzer : s.analyzer = t.analyzer
  now : s.now = t.now
  built : s.built = t.built
  cache : ∃ c d, s.cache = some c ∧ t.cache = some d ∧ SameLive s.now c d

theorem SameLive.later {now later : Nat} (h : SameLive now c d) (hle : now ≤ later) :
    SameLive later c d where
  ttl := h.ttl
  live key := by rw [c.live?_later hle, d.live?_later hle, h.live]

theorem SameLive.get {now : Nat} (h : SameLive now c d) (key : Location) :
    SameLive now (c.get now key).2 (d.get now key).2 where
  ttl := by rw [c.ttl_get, d.ttl_get, h.ttl]
  live k := by rw [c.live?_get (Nat.le_refl _), d.live?_get (Nat.le_refl _), h.live]

theorem SameLive.put {now : Nat} (h : SameLive now c d) (key : Location) (e : Edition) :
    SameLive now (c.put now key e) (d.put now key e) where
  ttl := h.ttl
  live k := by rw [c.live?_put, d.live?_put, h.ttl, h.live]

theorem Alike.analyzed (h : Alike s t) (hc : s.cache = some c) (hd : t.cache = some d)
    (hsame : SameLive s.now c d) {path : String} {found : Except Fault Located}
    {answer : Except Interruption Edition} {s' : Store} (hs : Analyzed s c path found answer s') :
    ∃ t', Analyzed t d path found answer t' ∧ Alike s' t' := by
  -- The two stores are one store with two caches.
  obtain ⟨analyzer, cache, now, built⟩ := s
  obtain ⟨_, _, _, _⟩ := t
  obtain ⟨rfl, rfl, rfl, hcache⟩ := h
  have hlive := hsame.live
  cases hs with
  | unlocated fault => exact ⟨_, .unlocated fault, rfl, rfl, rfl, hcache⟩
  | kept he => exact ⟨_, .kept (hlive _ ▸ he), rfl, rfl, rfl, hcache⟩
  | refused hnone hbuild =>
    exact ⟨_, .refused (hlive _ ▸ hnone) hbuild, rfl, rfl, rfl, _, _, rfl, rfl, hsame.get _⟩
  | built hnone hbuild hclock =>
    exact ⟨_, .built (hlive _ ▸ hnone) hbuild (hsame.ttl ▸ hclock), rfl, rfl, rfl, _, _, rfl, rfl,
      (hsame.get _).put _ _⟩
  | overflow hnone hbuild hclock =>
    exact ⟨_, .overflow (hlive _ ▸ hnone) hbuild (hsame.ttl ▸ hclock), rfl, rfl, rfl, _, _, rfl,
      rfl, hsame.get _⟩

/-- Stores that are alike give the same answer, and are alike after it. -/
theorem Alike.analyze (h : Alike s t) (path : String) (found : Except Fault Located) :
    (s.analyze path found).1 = (t.analyze path found).1 ∧
      Alike (s.analyze path found).2 (t.analyze path found).2 := by
  obtain ⟨c, d, hc, hd, hsame⟩ := h.cache
  obtain ⟨t', ht, halike⟩ := h.analyzed hc hd hsame (analyzed_analyze hc path found)
  rw [ht.eq hd]
  exact ⟨rfl, halike⟩

/-- An analysis that fails leaves a store that shows the same. -/
theorem alike_of_error {path : String} {found : Except Fault Located} {i : Interruption}
    (hc : s.cache = some c) (h : (s.analyze path found).1 = .error i) :
    Alike (s.analyze path found).2 s := by
  have hrefl : SameLive s.now c c := ⟨rfl, fun _ => rfl⟩
  have hasked : ∀ key, SameLive s.now (c.get s.now key).2 c := fun key =>
    ⟨c.ttl_get _ _, fun _ => c.live?_get (Nat.le_refl _) _ _⟩
  have hs := analyzed_analyze hc path found
  generalize (s.analyze path found).2 = s' at hs ⊢
  rw [h] at hs
  cases hs with
  | unlocated => exact ⟨rfl, rfl, rfl, c, c, hc, hc, hrefl⟩
  | refused | overflow => exact ⟨rfl, rfl, rfl, _, c, rfl, hc, hasked _⟩

end Store

/-! ## Runs -/

/-- What can happen to a store. -/
inductive Step where
  | analyze (path : String)
  | clear
  | advance (nanos : Nat)
  /-- Any change of the file system: from now on, paths lead where `locate` says. -/
  | change (locate : Locator)

/-- A store, and what paths lead to. -/
structure Moment where
  store : Store
  locate : Locator

namespace Moment

def answer (m : Moment) (path : String) : Except Interruption Edition :=
  (m.store.analyze path (m.locate path)).1

def after (m : Moment) : Step → Moment
  | .analyze path => { m with store := (m.store.analyze path (m.locate path)).2 }
  | .clear => { m with store := m.store.clear }
  | .advance nanos => { m with store := m.store.advance nanos }
  | .change locate => { m with locate }

def afterAll (m : Moment) (steps : List Step) : Moment := steps.foldl after m

/-- The answers to the analyses of a run. -/
def answers (m : Moment) : List Step → List (Except Interruption Edition)
  | [] => []
  | .analyze path :: steps => m.answer path :: (m.after (.analyze path)).answers steps
  | step :: steps => (m.after step).answers steps

theorem afterAll_append (m : Moment) (front rest : List Step) :
    m.afterAll (front ++ rest) = (m.afterAll front).afterAll rest := List.foldl_append

theorem afterAll_snoc (m : Moment) (steps : List Step) (step : Step) :
    m.afterAll (steps ++ [step]) = (m.afterAll steps).after step := by
  rw [afterAll_append]
  rfl

theorem built_le_after (m : Moment) (step : Step) : m.store.built ≤ (m.after step).store.built := by
  cases step with
  | analyze path => exact m.store.built_le_analyze path (m.locate path)
  | clear | advance | change => exact Nat.le_refl _

theorem built_le_afterAll (m : Moment) (steps : List Step) :
    m.store.built ≤ (m.afterAll steps).store.built := by
  induction steps generalizing m with
  | nil => exact Nat.le_refl _
  | cons step steps ih => exact Nat.le_trans (m.built_le_after step) (ih (m.after step))

theorem analyzed_answer {m : Moment} {c : ExpiringCache Location Edition}
    (hc : m.store.cache = some c) (path : String) :
    m.store.Analyzed c path (m.locate path) (m.answer path) (m.after (.analyze path)).store :=
  Store.analyzed_analyze hc path (m.locate path)

/-- Moments whose stores are alike have the same answers ahead. -/
theorem answers_congr {m n : Moment} (hlocate : m.locate = n.locate)
    (halike : m.store.Alike n.store) (steps : List Step) : m.answers steps = n.answers steps := by
  induction steps generalizing m n with
  | nil => rfl
  | cons step steps ih =>
    obtain ⟨c, d, hc, hd, hsame⟩ := halike.cache
    cases step with
    | analyze path =>
      obtain ⟨hanswer, hnext⟩ := halike.analyze path (m.locate path)
      refine congrArg₂ List.cons ?_ (ih hlocate ?_)
      · exact hanswer.trans (by rw [hlocate]; rfl)
      · rw [hlocate] at hnext
        simpa only [after, hlocate] using hnext
    | clear =>
      refine ih hlocate ⟨halike.analyzer, halike.now, halike.built, c.clear, d.clear, ?_, ?_, ?_⟩
      · simp [after, Store.clear, hc]
      · simp [after, Store.clear, hd]
      · exact ⟨hsame.ttl, fun _ => rfl⟩
    | advance nanos =>
      refine ih hlocate ⟨halike.analyzer, ?_, halike.built, c, d, hc, hd, ?_⟩
      · exact congrArg (· + nanos) halike.now
      · exact hsame.later (Nat.le_add_right _ _)
    | change locate => exact ih rfl halike

end Moment
end Dossier
