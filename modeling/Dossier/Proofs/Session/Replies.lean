import Dossier.Proofs.Analysis.Connections
import Dossier.Proofs.Selection.Expansion
import Dossier.Proofs.Session.Invalidation
import Dossier.Session.Basic
import Mathlib.Algebra.Order.BigOperators.Group.List

/-!
# What a session replies

A session is asked for many things, and time passes and the file system changes between them.
`Request.question` reduces all requests that need a snapshot to one analysis. Usable settings leave
two ways in which a request is not answered: there is no repository that can be analyzed (`Fails`),
or the clock cannot show the moment at which a new snapshot would expire (`Overflows`). The second
one is no fault of the repository, and no setting that is checked excludes it
(`overflow_of_usable`). `answer_settled` says that each of them happens exactly when it is described
to, that nothing else does, and that no number of tokens in a reply has wrapped.
-/

set_option autoImplicit false

namespace Dossier

/-! ## Requests -/

/-- What can be asked of a session. -/
inductive Request where
  | analyze
  | select (r : SelectionRequest)
  | lookup (r : LookupRequest) (collaborator : Option Collaborator)
  | search (o : SearchOptions) (query : String)
  | searchRanked (o : SearchOptions) (query : String)
  | expand (r : ExpansionRequest) (selected : List String)
  | invalidate
  | clear

/-- What a request is answered by. -/
inductive Reply where
  | edition (e : Edition)
  | selection (x : Selection)
  | enhanced (x : EnhancedSelection)
  | found (cs : List Chunk)
  | ranked (cs : List ScoredChunk)
  | expansion (x : Expansion)
  /-- Whether a snapshot was dropped. -/
  | dropped (had : Bool)
  | done

/-- The question about the snapshot that a request comes down to, if it needs one. -/
def Request.question : Request → Option (Edition → Reply)
  | .analyze => some .edition
  | .select r => some fun e => .selection (r.run e.snapshot)
  | .lookup r collaborator => some fun e => .enhanced (r.run collaborator e.snapshot)
  | .search o query => some fun e => .found (Dossier.search o query e.snapshot)
  | .searchRanked o query => some fun e => .ranked (Dossier.searchRanked o query e.snapshot)
  | .expand r selected => some fun e => .expansion (r.run selected e.snapshot)
  | .invalidate | .clear => none

/-- What can happen to a session. -/
inductive Turn where
  /-- A request, while paths lead where `locate` says. -/
  | ask (locate : Locator) (r : Request)
  | wait (nanos : Nat)
  /-- Another root from now on. -/
  | move (root : String)

/-- The time that passes in turns. -/
def waited : List Turn → Nat
  | [] => 0
  | .wait nanos :: turns => nanos + waited turns
  | _ :: turns => waited turns

theorem waited_append (front rest : List Turn) :
    waited (front ++ rest) = waited front + waited rest := by
  induction front with
  | nil => exact (Nat.zero_add _).symm
  | cons turn front ih =>
    cases turn <;> simp only [List.cons_append, waited, ih, Nat.add_assoc]

namespace Session

def answer (s : Session) (locate : Locator) : Request → Answer Reply
  | .analyze => Prod.map (Except.map .edition) id (s.analyze locate)
  | .select r => Prod.map (Except.map .selection) id (s.select locate r)
  | .lookup r collaborator => Prod.map (Except.map .enhanced) id (s.lookup locate r collaborator)
  | .search o query => Prod.map (Except.map .found) id (s.search locate o query)
  | .searchRanked o query => Prod.map (Except.map .ranked) id (s.searchRanked locate o query)
  | .expand r selected => Prod.map (Except.map .expansion) id (s.expand locate r selected)
  | .invalidate => Prod.map (fun had => .ok (.dropped had)) id (s.invalidate locate)
  | .clear => (.ok .done, s.clear)

def turn (s : Session) : Turn → Session
  | .ask locate r => (s.answer locate r).2
  | .wait nanos => s.advance nanos
  | .move root => s.withRoot root

def turns (s : Session) (ts : List Turn) : Session := ts.foldl turn s

theorem turns_snoc (s : Session) (ts : List Turn) (t : Turn) :
    s.turns (ts ++ [t]) = (s.turns ts).turn t := List.foldl_append

variable {s : Session} {locate : Locator} {r : Request}

/-- A request about the snapshot is answered by one analysis. -/
theorem answer_of_question {q : Edition → Reply} (h : r.question = some q) :
    s.answer locate r = ((s.analyze locate).1.map q, (s.analyze locate).2) := by
  have hask : ∀ {α : Type} (f : Snapshot → α) (reply : α → Reply),
      Prod.map (Except.map reply) id (s.ask locate f) =
        ((s.analyze locate).1.map fun e => reply (f e.snapshot), (s.analyze locate).2) := by
    intro α f reply
    unfold ask
    rcases s.analyze locate with ⟨_ | _, _⟩ <;> rfl
  cases r with
  | analyze =>
    cases h
    rfl
  | select | lookup | search | searchRanked | expand =>
    cases h
    exact hask _ _
  | invalidate | clear => cases h

end Session

/-! ## Numbers of tokens -/

/-- That the tokens of a snapshot are those of its chunks. -/
def Snapshot.Totalled (s : Snapshot) : Prop :=
  s.totalTokens = (s.chunks.toList.map (·.tokens.toNat)).sum

theorem Analyzer.totalled_build {a : Analyzer} {l : Located} {s : Snapshot}
    (h : a.build l = .ok s) : s.Totalled := by
  obtain ⟨access, entries, files, -, -, -, rfl⟩ := build_eq_ok_iff.mp h
  obtain ⟨g, hg⟩ :=
    Connectivity.raiseAll_eq_map (a.importsAmong (a.chunksOf files)).converse (a.chunksOf files)
  have hlisted : (a.snapshotOf l.path files).chunks.toList =
      Connectivity.raiseAll (a.importsAmong (a.chunksOf files)).converse (a.chunksOf files) := by
    refine Catalog.toList_ofList ?_
    rw [hg]
    exact List.pairwise_map.mpr (a.ordered_chunksOf _)
  unfold Snapshot.Totalled
  rw [hlisted, List.sum_eq_foldl, List.foldl_map]
  rfl

/-- As many chunks as there are numbers of 32 bits have a total of less than 64 bits. -/
theorem Snapshot.Totalled.lt {s : Snapshot} (h : s.Totalled)
    (hsize : s.chunks.toList.length ≤ 2 ^ 32) : s.totalTokens < 2 ^ 64 := by
  have hle : (s.chunks.toList.map (·.tokens.toNat)).sum ≤
      (s.chunks.toList.map (·.tokens.toNat)).length * (2 ^ 32 - 1) := by
    refine List.sum_le_card_nsmul _ _ fun n hn => ?_
    obtain ⟨c, -, rfl⟩ := List.mem_map.mp hn
    have hlt := c.tokens.toNat_lt
    omega
  rw [List.length_map] at hle
  rw [h]
  omega

theorem SelectionRequest.total_runWith (r : SelectionRequest) (boosts : Boosts)
    (pinned : List String) (s : Snapshot) : (r.runWith boosts pinned s).totalTokens.toNat =
      ((r.runWith boosts pinned s).chunks.map (·.tokens.toNat)).sum :=
  (r.sound_spent boosts pinned s).used_eq

theorem LookupRequest.total_run (r : LookupRequest) (collaborator : Option Collaborator)
    (s : Snapshot) : (r.run collaborator s).selection.totalTokens.toNat =
      ((r.run collaborator s).selection.chunks.map (·.tokens.toNat)).sum := by
  rcases r.idle_or_active collaborator with h | ⟨file, c, hfile, rfl, hactive⟩
  · rw [run_idle h]
    exact r.base.total_runWith _ _ _
  · rw [run_active hfile hactive]
    split
    · exact r.base.total_runWith _ _ _
    · exact r.base.total_runWith _ _ _

theorem ExpansionRequest.total_run (r : ExpansionRequest) (selected : List String) (s : Snapshot) :
    (r.run selected s).tokensAdded.toNat = ((r.run selected s).added.map (·.tokens.toNat)).sum :=
  (Budget.sound_pack r.maxTokensToAdd (r.candidates selected s)).used_eq

/-- That the numbers of tokens in a reply are those of its chunks, none of them wrapped. -/
def Reply.Exact : Reply → Prop
  | .edition e => e.snapshot.Totalled ∧
      (e.snapshot.chunks.toList.length ≤ 2 ^ 32 → e.snapshot.totalTokens < 2 ^ 64)
  | .selection x => x.totalTokens.toNat = (x.chunks.map (·.tokens.toNat)).sum
  | .enhanced x => x.selection.totalTokens.toNat = (x.selection.chunks.map (·.tokens.toNat)).sum
  | .expansion x => x.tokensAdded.toNat = (x.added.map (·.tokens.toNat)).sum
  | .found _ | .ranked _ | .dropped _ | .done => True

theorem Request.exact_question {r : Request} {q : Edition → Reply} (h : r.question = some q)
    {e : Edition} (he : e.snapshot.Totalled) : (q e).Exact := by
  cases r with
  | analyze =>
    cases h
    exact ⟨he, he.lt⟩
  | select r =>
    cases h
    exact r.total_runWith _ _ _
  | lookup r collaborator =>
    cases h
    exact r.total_run _ _
  | expand r selected =>
    cases h
    exact r.total_run _ _
  | search | searchRanked =>
    cases h
    trivial
  | invalidate | clear => cases h

/-! ## What holds after any turns -/

/-- The time that passes in an event. -/
def Event.elapsed : Event → Nat
  | .step (.advance nanos) => nanos
  | _ => 0

namespace Store

/-- What holds of the store of a session with given settings, at a moment. -/
structure Sound (settings : Settings) (now : Nat) (t : Store) : Prop where
  analyzer : t.analyzer = .ofSettings settings.analyzer
  now_eq : t.now = now
  span : t.cache.map (·.ttl) =
    if settings.cache.enabled then some (Duration.ofSeconds settings.cache.ttlSeconds) else none
  totalled : ∀ c, t.cache = some c → ∀ root e, c.stored? root = some e →
    e.value.snapshot.Totalled

theorem frame_invalidate (t : Store) (found : Except Fault Located) :
    (t.invalidate found).2.analyzer = t.analyzer ∧ (t.invalidate found).2.now = t.now ∧
      (t.invalidate found).2.cache.map (·.ttl) = t.cache.map (·.ttl) := by
  unfold invalidate
  split
  · next hc =>
    rw [hc]
    exact ⟨rfl, rfl, rfl⟩
  · exact ⟨rfl, rfl, rfl⟩

theorem sound_ofSettings (settings : Settings) (now : Nat) :
    (ofSettings settings now).Sound settings now where
  analyzer := rfl
  now_eq := rfl
  span := by
    unfold ofSettings
    split <;> rfl
  totalled c hc root e he := by
    unfold ofSettings at hc
    split at hc
    · cases hc
      cases he
    · cases hc

theorem Sound.next {settings : Settings} {now : Nat} {m : Moment}
    (h : m.store.Sound settings now) (x : Event) :
    (m.next x).store.Sound settings (now + x.elapsed) := by
  have htotalled : ∀ c, (m.next x).store.cache = some c → ∀ root e, c.stored? root = some e →
      e.value.snapshot.Totalled := by
    -- What is stored was built by the event, or was stored before it.
    intro c hc root e he
    rcases m.stored_next hc he with ⟨path, -, hbuilds⟩ | ⟨-, d, hd, hstored⟩
    · obtain ⟨l, -, -, hbuild⟩ := hbuilds.found
      exact Analyzer.totalled_build hbuild
    · exact h.totalled d hd root e hstored
  cases x with
  | step step =>
    cases step with
    | analyze path =>
      obtain ⟨hanalyzer, hnow, hspan⟩ := m.store.frame_analyze path (m.locate path)
      exact ⟨hanalyzer.trans h.analyzer, hnow.trans h.now_eq, hspan.trans h.span, htotalled⟩
    | clear =>
      have hspan : (m.store.cache.map ExpiringCache.clear).map (·.ttl) =
          m.store.cache.map (·.ttl) := by
        rw [Option.map_map]
        rfl
      exact ⟨h.analyzer, h.now_eq, hspan.trans h.span, htotalled⟩
    | advance nanos => exact ⟨h.analyzer, congrArg (· + nanos) h.now_eq, h.span, htotalled⟩
    | change => exact ⟨h.analyzer, h.now_eq, h.span, htotalled⟩
  | invalidate path =>
    obtain ⟨hanalyzer, hnow, hspan⟩ := m.store.frame_invalidate (m.locate path)
    exact ⟨hanalyzer.trans h.analyzer, hnow.trans h.now_eq, hspan.trans h.span, htotalled⟩

/-- That nothing is kept of what a path leads to, so that it has to be built. -/
def Wants (t : Store) (l : Located) : Prop :=
  ∀ c, t.cache = some c → c.live? t.now (.ofString l.path) = none

/-- Why an analysis is not answered. -/
inductive Interrupts (t : Store) (path : String) : Except Fault Located → Interruption → Prop where
  | unlocated (fault : Fault) : Interrupts t path (.error fault) (.failed (.root path fault))
  | refused {l : Located} {err : AnalysisError} (hwants : t.Wants l)
      (hbuild : t.analyzer.build l = .error err) : Interrupts t path (.ok l) (.failed err)
  | overflow {l : Located} {snapshot : Snapshot} {c : ExpiringCache Location Edition}
      (hwants : t.Wants l) (hbuild : t.analyzer.build l = .ok snapshot) (hc : t.cache = some c)
      (hclock : ¬ Clock.Shows (t.now + c.ttl)) : Interrupts t path (.ok l) .clockOverflow

variable {t t' : Store} {c : ExpiringCache Location Edition} {path : String}
  {found : Except Fault Located} {i : Interruption}

theorem Analyzed.interrupts (hc : t.cache = some c) (h : Analyzed t c path found (.error i) t') :
    t.Interrupts path found i := by
  have hwants : ∀ {l : Located}, c.live? t.now (.ofString l.path) = none → t.Wants l := by
    intro l hnone d hd
    cases hc.symm.trans hd
    exact hnone
  cases h with
  | unlocated fault => exact .unlocated fault
  | refused hnone hbuild => exact .refused (hwants hnone) hbuild
  | overflow hnone hbuild hclock => exact .overflow (hwants hnone) hbuild hc hclock

theorem Renewed.interrupts (hc : t.cache = none) (h : Renewed t path found (.error i) t') :
    t.Interrupts path found i := by
  cases h with
  | unlocated fault => exact .unlocated fault
  | refused hbuild => exact .refused (fun c hd => by cases hc.symm.trans hd) hbuild

theorem Interrupts.answer (h : t.Interrupts path found i) : (t.analyze path found).1 = .error i := by
  cases h with
  | unlocated fault => rfl
  | refused hwants hbuild =>
    cases hc : t.cache with
    | some c => exact congrArg Prod.fst ((Analyzed.refused (hwants c hc) hbuild).eq hc)
    | none =>
      unfold analyze lookup? renew
      simp only [hc, hbuild]
  | overflow hwants hbuild hc hclock =>
    exact congrArg Prod.fst ((Analyzed.overflow (hwants _ hc) hbuild hclock).eq hc)

/-- **These are all interruptions of an analysis, and each of them happens.** -/
theorem interrupts_iff : (t.analyze path found).1 = .error i ↔ t.Interrupts path found i := by
  refine ⟨fun h => ?_, Interrupts.answer⟩
  cases hc : t.cache with
  | some c =>
    have ha := analyzed_analyze hc path found
    rw [h] at ha
    exact ha.interrupts hc
  | none =>
    have ha := renewed_analyze hc path found
    rw [h] at ha
    exact ha.interrupts hc

theorem Sound.totalled_analyze {settings : Settings} {now : Nat} {t : Store}
    (h : t.Sound settings now) {path : String} {found : Except Fault Located} {e : Edition}
    (he : (t.analyze path found).1 = .ok e) : e.snapshot.Totalled := by
  cases found with
  | error fault => cases he
  | ok l =>
    rcases Moment.builds_or_stored (m := ⟨t, fun _ => .ok l⟩) rfl he with
      hbuilds | ⟨c, stored, hc, hstored, rfl⟩
    · obtain ⟨l, -, -, hbuild⟩ := hbuilds.found
      exact Analyzer.totalled_build hbuild
    · exact h.totalled c hc _ stored hstored

end Store

namespace Session

theorem eq_of_ofSettings {settings : Settings} {now : Nat} {s : Session}
    (h : ofSettings settings now = .ok s) :
    s = ⟨settings, settings.analyzer.root, .ofSettings settings now⟩ := by
  unfold ofSettings at h
  cases hvalid : settings.validate with
  | error u =>
    rw [hvalid] at h
    cases h
  | ok =>
    rw [hvalid] at h
    cases h
    rfl

/-- A turn is at most one event for the store. -/
theorem sound_turn {settings : Settings} {now : Nat} {s : Session}
    (h : s.store.Sound settings now) (t : Turn) :
    (s.turn t).store.Sound settings (now + waited [t]) := by
  cases t with
  | ask locate r =>
    have hnext := fun x => Store.Sound.next (m := ⟨s.store, locate⟩) h x
    cases hq : r.question with
    | some q =>
      have hturn : s.turn (.ask locate r) = (s.analyze locate).2 := by
        rw [turn, answer_of_question hq]
      rw [hturn]
      exact hnext (.step (.analyze s.root))
    | none =>
      cases r with
      | invalidate => exact hnext (.invalidate s.root)
      | clear => exact hnext (.step .clear)
      | analyze | select | lookup | search | searchRanked | expand => cases hq
  | wait nanos =>
    exact Store.Sound.next (m := ⟨s.store, fun _ => .error .notFound⟩) h (.step (.advance nanos))
  | move root => exact h

theorem sound_turns {settings : Settings} {origin : Nat} {start : Session}
    (h : ofSettings settings origin = .ok start) (ts : List Turn) :
    (start.turns ts).store.Sound settings (origin + waited ts) := by
  induction ts using List.reverseRecOn with
  | nil =>
    rw [eq_of_ofSettings h]
    exact Store.sound_ofSettings settings origin
  | append_singleton ts t ih =>
    rw [turns_snoc, waited_append, ← Nat.add_assoc]
    exact sound_turn ih t

/-! ## Every request is settled -/

/-- That a request needs a snapshot that there cannot be. -/
inductive Fails (settings : Settings) (s : Session) (locate : Locator) (r : Request) :
    AnalysisError → Prop where
  /-- The root leads nowhere. -/
  | unlocated {fault : Fault} (hasks : r.question ≠ none) (hroot : locate s.root = .error fault) :
      Fails settings s locate r (.root s.root fault)
  /-- What is at the root cannot be analyzed, and nothing is kept of it. -/
  | refused {l : Located} {err : AnalysisError} (hasks : r.question ≠ none)
      (hroot : locate s.root = .ok l) (hwants : s.store.Wants l)
      (hbuild : (Analyzer.ofSettings settings.analyzer).build l = .error err) :
      Fails settings s locate r err

/-- That a request needs a new snapshot whose expiry the clock cannot show. -/
structure Overflows (settings : Settings) (now : Nat) (s : Session) (locate : Locator)
    (r : Request) : Prop where
  asks : r.question ≠ none
  keeps : settings.cache.enabled = true
  builds : ∃ l snapshot, locate s.root = .ok l ∧ s.store.Wants l ∧
    (Analyzer.ofSettings settings.analyzer).build l = .ok snapshot
  late : ¬ Clock.Shows (now + Duration.ofSeconds settings.cache.ttlSeconds)

/-- That a request is answered in full, fails, or overflows the clock, and when it does either. -/
structure Settled (settings : Settings) (now : Nat) (s : Session) (locate : Locator)
    (r : Request) : Prop where
  outcome : (∃ reply, (s.answer locate r).1 = .ok reply ∧ reply.Exact) ∨
    (∃ err, (s.answer locate r).1 = .error (.failed err)) ∨
    (s.answer locate r).1 = .error .clockOverflow
  failed : ∀ err, (s.answer locate r).1 = .error (.failed err) ↔ s.Fails settings locate r err
  overflow : (s.answer locate r).1 = .error .clockOverflow ↔ s.Overflows settings now locate r

variable {settings : Settings} {now : Nat} {s : Session} {locate : Locator} {r : Request}

theorem exists_answer_of_none (s : Session) (locate : Locator) (h : r.question = none) :
    ∃ reply, (s.answer locate r).1 = .ok reply ∧ reply.Exact := by
  cases r with
  | invalidate => exact ⟨_, rfl, trivial⟩
  | clear => exact ⟨_, rfl, trivial⟩
  | analyze | select | lookup | search | searchRanked | expand => cases h

/-- A request is interrupted when it needs a snapshot and the analysis is. -/
theorem answer_eq_error_iff {i : Interruption} : (s.answer locate r).1 = .error i ↔
    r.question ≠ none ∧ s.store.Interrupts s.root (locate s.root) i := by
  rw [← Store.interrupts_iff]
  cases hq : r.question with
  | none =>
    obtain ⟨reply, hreply, -⟩ := exists_answer_of_none s locate hq
    simp [hreply]
  | some q =>
    have hstore : (s.analyze locate).1 = (s.store.analyze s.root (locate s.root)).1 := rfl
    rw [answer_of_question hq, ← hstore]
    simp [map_eq_error_iff]

theorem failed_iff (h : s.store.Sound settings now) {err : AnalysisError} :
    (s.answer locate r).1 = .error (.failed err) ↔ s.Fails settings locate r err := by
  rw [answer_eq_error_iff]
  constructor
  · rintro ⟨hasks, hinterrupts⟩
    generalize hroot : locate s.root = found at hinterrupts
    cases hinterrupts with
    | unlocated fault => exact .unlocated hasks hroot
    | refused hwants hbuild => exact .refused hasks hroot hwants (h.analyzer ▸ hbuild)
  · intro hfails
    cases hfails with
    | unlocated hasks hroot =>
      rw [hroot]
      exact ⟨hasks, .unlocated _⟩
    | refused hasks hroot hwants hbuild =>
      rw [hroot]
      exact ⟨hasks, .refused hwants (h.analyzer.symm ▸ hbuild)⟩

theorem overflow_iff (h : s.store.Sound settings now) :
    (s.answer locate r).1 = .error .clockOverflow ↔ s.Overflows settings now locate r := by
  have hspan := h.span
  rw [answer_eq_error_iff]
  constructor
  · rintro ⟨hasks, hinterrupts⟩
    generalize hroot : locate s.root = found at hinterrupts
    cases hinterrupts with
    | overflow hwants hbuild hc hclock =>
      rw [hc, Option.map_some] at hspan
      split at hspan
      · next henabled =>
        rw [h.now_eq, Option.some.inj hspan] at hclock
        exact ⟨hasks, henabled, ⟨_, _, hroot, hwants, h.analyzer ▸ hbuild⟩, hclock⟩
      · cases hspan
  · rintro ⟨hasks, hkeeps, ⟨l, snapshot, hroot, hwants, hbuild⟩, hlate⟩
    rw [if_pos hkeeps] at hspan
    obtain ⟨c, hc, httl⟩ := Option.map_eq_some_iff.mp hspan
    rw [hroot]
    refine ⟨hasks, .overflow hwants (h.analyzer.symm ▸ hbuild) hc ?_⟩
    rwa [h.now_eq, httl]

/-- **Usable settings leave two ways for a request not to be answered**, whenever the session began
on its clock, after any turns, and wherever paths lead. -/
theorem answer_settled (settings : Settings) (origin : Nat) (start : Session)
    (hsettings : ofSettings settings origin = .ok start) (ts : List Turn) (locate : Locator)
    (r : Request) : (start.turns ts).Settled settings (origin + waited ts) locate r := by
  have hsound := sound_turns hsettings ts
  refine ⟨?_, fun err => failed_iff hsound, overflow_iff hsound⟩
  cases hq : r.question with
  | none => exact .inl (exists_answer_of_none _ locate hq)
  | some q =>
    cases ha : ((start.turns ts).analyze locate).1 with
    | ok e =>
      refine .inl ⟨q e, ?_, Request.exact_question hq (hsound.totalled_analyze ha)⟩
      rw [answer_of_question hq, ha]
      rfl
    | error i =>
      have hinterrupts := Store.interrupts_iff.mp ha
      have hasks : r.question ≠ none := by simp [hq]
      have herror := answer_eq_error_iff.mpr ⟨hasks, hinterrupts⟩
      generalize locate (start.turns ts).root = found at hinterrupts
      cases hinterrupts with
      | unlocated | refused => exact .inr (.inl ⟨_, herror⟩)
      | overflow => exact .inr (.inr herror)

theorem ofSettings_of_isEmpty {settings : Settings} (h : settings.unusables.isEmpty = true)
    (now : Nat) : ofSettings settings now =
      .ok ⟨settings, settings.analyzer.root, .ofSettings settings now⟩ := by
  unfold ofSettings Settings.validate
  rw [List.isEmpty_iff.mp h]
  rfl

/-- Two modules in a directory, and a link to it. -/
def sampleSystem : FileSystem where
  top := .directory {}
    [(.text "repo", .directory {} Analyzer.samplePair), (.text "link", .link "/repo")]

theorem locate_sampleSystem :
    sampleSystem.locate "/link" = .ok ⟨"/repo", .directory {} Analyzer.samplePair⟩ := rfl

/-- The modules are read through the link, and what is built is kept for so many seconds. -/
def sampleSettings (ttlSeconds : Nat) : Settings where
  analyzer :=
    { root := "/link", includeGlobs := ["**/*.py"], excludeGlobs := [], maxFileSize := 100 }
  cache := { ttlSeconds }

/-- A request that needs the modules when nothing is kept of them overflows if it is too late. -/
theorem overflows_sampleSystem {ttlSeconds : Nat} {s : Session} (hroot : s.root = "/link")
    (hempty : ∀ c, s.store.cache = some c → c.entries = []) (hasks : r.question ≠ none)
    (hlate : ¬ Clock.Shows (now + Duration.ofSeconds ttlSeconds)) :
    s.Overflows (sampleSettings ttlSeconds) now sampleSystem.locate r := by
  refine ⟨hasks, rfl, ⟨⟨"/repo", .directory {} Analyzer.samplePair⟩, _, ?_, ?_,
    Analyzer.build_samplePair⟩, hlate⟩
  · rw [hroot, locate_sampleSystem]
  · intro c hc
    rw [ExpiringCache.live?, ExpiringCache.stored?, hempty c hc]
    rfl

/-- A selection, nothing kept of it, and a second later. -/
def sampleTurns : List Turn :=
  [.ask sampleSystem.locate (.select { maxTokens := 16 }), .ask sampleSystem.locate .clear,
    .wait (Duration.ofSeconds 1)]

/-- One second after the origin of the clock a snapshot can be kept until the last second that the
clock can show; one second later it cannot be kept for as long. -/
theorem answer_settled_sampleTurns : ∃ start,
    ofSettings (sampleSettings (2 ^ 63 - 2)) (Duration.ofSeconds 1) = .ok start ∧
      (∃ reply, (start.answer sampleSystem.locate (.select { maxTokens := 16 })).1 = .ok reply ∧
        reply.Exact) ∧
      ((start.turns sampleTurns).answer sampleSystem.locate (.search {} "c")).1 =
        .error .clockOverflow := by
  have hstart := ofSettings_of_isEmpty
    (by decide +kernel : (sampleSettings (2 ^ 63 - 2)).unusables.isEmpty = true)
    (Duration.ofSeconds 1)
  have hfirst := answer_settled _ _ _ hstart [] sampleSystem.locate (.select { maxTokens := 16 })
  have hlast := answer_settled _ _ _ hstart sampleTurns sampleSystem.locate (.search {} "c")
  refine ⟨_, hstart, ?_, hlast.overflow.mpr (overflows_sampleSystem rfl ?_ nofun (by decide))⟩
  · rcases hfirst.outcome with hreply | ⟨err, herr⟩ | hoverflow
    · exact hreply
    · cases (hfirst.failed err).mp herr with
      | unlocated hasks hroot => cases hroot
      | refused hasks hroot hwants hbuild =>
        cases locate_sampleSystem.symm.trans hroot
        cases Analyzer.build_samplePair.symm.trans hbuild
    · exact absurd (by decide) (hfirst.overflow.mp hoverflow).late
  · intro c hc
    obtain ⟨d, -, rfl⟩ := Option.map_eq_some_iff.mp hc
    rfl

/-- Settings can be usable and yet let the first request overflow: those that keep snapshots for as
many seconds as 64 bits can name. -/
theorem overflow_of_usable : ¬ ∀ (settings : Settings) (now : Nat) (start : Session)
    (locate : Locator) (r : Request) (i : Interruption), ofSettings settings now = .ok start →
      (start.answer locate r).1 = .error i → ∃ err, i = .failed err := by
  intro hall
  have hstart := ofSettings_of_isEmpty
    (by decide +kernel : (sampleSettings 18446744073709551615).unusables.isEmpty = true)
    (Duration.ofSeconds 1)
  have hoverflows := (overflow_iff (sound_turns hstart [])).mpr
    (overflows_sampleSystem (r := .analyze) rfl (fun c hc => by cases hc; rfl) nofun (by decide))
  obtain ⟨err, herr⟩ := hall _ _ _ _ _ _ hstart hoverflows
  cases herr

end Session
end Dossier
