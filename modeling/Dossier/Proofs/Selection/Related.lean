import Dossier.Proofs.Catalog
import Dossier.Selection.Lookup
import Mathlib.Data.List.Basic
import Mathlib.Data.String.Basic

/-!
# The files around the edited one

What the collaborator answers is gathered question by question. `Collaborator.report` reads an
answer as the files that it names, a failed one as naming none, and `Reported` says which ids the
questions of one kind bring in: `mem_related` says that the related files are these and the
neighbours in the import graphs, whatever the order of the answers. A run then has three equations,
one for each way out of it.
-/

set_option autoImplicit false

namespace Dossier

/-- The files that an answer names; a failed question names none. -/
def namedFiles (answer : Except LookupFailure (List String)) : List String :=
  answer.toOption.getD []

namespace Collaborator

/-- The files that the collaborator names when it is asked a question. -/
def report (c : Collaborator) (q : Query) : List String :=
  match q.kind with
  | .references => namedFiles (c.references q.file q.position)
  | .definition => namedFiles (c.definition q.file q.position)
  | .hover => []

/-- The text that the collaborator shows at a position, if it shows one. -/
def shown (c : Collaborator) (file : String) (at_ : Position) : Option String :=
  (c.hover file at_).toOption.join

end Collaborator

namespace Lookup

variable {s : Snapshot} {c d : Collaborator} {editing : String} {cursor : Option Position}

/-! ## What is gathered -/

/-- The files that questions of a kind are asked for. -/
def Related.ofKind (r : Related) : QueryKind → Std.TreeSet String
  | .references => r.referencing
  | .definition => r.dependencies
  | .hover => ∅

theorem mem_kept {files : List String} {id : String} :
    id ∈ kept s editing files ↔
      (∃ file ∈ files, locationId s.root file = id) ∧ id ≠ editing ∧
        ∃ chunk, s.get? id = some chunk := by
  simp only [kept, List.mem_filter, List.mem_map, Bool.and_eq_true, bne_iff_ne, ne_eq,
    Catalog.contains_iff]
  rfl

/-- What one question adds to the files of a kind. -/
theorem mem_ask (r : Related) (q : Query) (kind : QueryKind) {id : String} :
    id ∈ (ask s c r q).ofKind kind ↔
      id ∈ r.ofKind kind ∨ q.kind = kind ∧ id ∈ kept s q.file (c.report q) := by
  obtain ⟨asked, file, position⟩ := q
  cases asked with
  | references =>
    cases h : c.references file position <;> cases kind <;>
      simp [ask, Related.ofKind, Collaborator.report, namedFiles, Except.toOption, h, kept]
  | definition =>
    cases h : c.definition file position <;> cases kind <;>
      simp [ask, Related.ofKind, Collaborator.report, namedFiles, Except.toOption, h, kept]
  | hover =>
    cases h : c.hover file position <;> cases kind <;>
      simp [ask, Related.ofKind, Collaborator.report, h, kept]

theorem mem_foldl_ask (qs : List Query) (r : Related) (kind : QueryKind) {id : String} :
    id ∈ (qs.foldl (ask s c) r).ofKind kind ↔
      id ∈ r.ofKind kind ∨ ∃ q ∈ qs, q.kind = kind ∧ id ∈ kept s q.file (c.report q) := by
  induction qs generalizing r with
  | nil => simp
  | cons q qs ih =>
    rw [List.foldl_cons, ih, mem_ask, List.exists_mem_cons_iff, or_assoc]

theorem symbol_ask {q : Query} (hq : q.kind ≠ .hover) (r : Related) :
    (ask s c r q).symbol = r.symbol := by
  obtain ⟨asked, file, position⟩ := q
  cases asked with
  | references => cases h : c.references file position <;> simp [ask, h]
  | definition => cases h : c.definition file position <;> simp [ask, h]
  | hover => exact absurd rfl hq

theorem symbol_foldl_ask {qs : List Query} (hqs : ∀ q ∈ qs, q.kind ≠ .hover) (r : Related) :
    (qs.foldl (ask s c) r).symbol = r.symbol := by
  induction qs generalizing r with
  | nil => rfl
  | cons q qs ih =>
    rw [List.foldl_cons, ih fun p hp => hqs p (List.mem_cons_of_mem q hp),
      symbol_ask (hqs q List.mem_cons_self)]

/-! ## The questions -/

theorem queries_some (editing : String) (at_ : Position) :
    queries editing (some at_) =
      if at_ = .start then
        [⟨.references, editing, .start⟩, ⟨.definition, editing, at_⟩, ⟨.hover, editing, at_⟩]
      else
        [⟨.references, editing, .start⟩, ⟨.references, editing, at_⟩,
          ⟨.definition, editing, at_⟩, ⟨.hover, editing, at_⟩] := by
  by_cases h : at_ = .start <;> simp [queries, Option.filter, h]

theorem queries_none (editing : String) :
    queries editing none = [⟨.references, editing, .start⟩] := rfl

theorem file_of_mem_queries {q : Query} (h : q ∈ queries editing cursor) : q.file = editing := by
  cases cursor with
  | none =>
    rw [queries_none, List.mem_singleton] at h
    rw [h]
  | some at_ =>
    rw [queries_some] at h
    split at h <;> simp only [List.mem_cons, List.not_mem_nil, or_false] at h
    · rcases h with rfl | rfl | rfl <;> rfl
    · rcases h with rfl | rfl | rfl | rfl <;> rfl

/-! ## The related files -/

variable (s c editing cursor) in
/-- The collaborator brings an id in with its answers to the questions of a kind: a chunk has it,
and it is not the edited file. -/
structure Reported (kind : QueryKind) (id : String) : Prop where
  named : ∃ q ∈ queries editing cursor, q.kind = kind ∧
    ∃ file ∈ c.report q, locationId s.root file = id
  other : id ≠ editing
  chunk : ∃ chunk, s.get? id = some chunk

/-- The neighbours of a file in the import graph that questions of a kind ask about. -/
def neighbors (s : Snapshot) (editing : String) : QueryKind → List String
  | .references => s.dependentsOf editing
  | .definition => s.dependenciesOf editing
  | .hover => []

theorem mem_related (kind : QueryKind) {id : String} :
    id ∈ (related s c editing cursor).ofKind kind ↔
      Reported s c editing cursor kind id ∨ id ∈ neighbors s editing kind := by
  have hasked : id ∈ ((queries editing cursor).foldl (ask s c) {}).ofKind kind ↔
      Reported s c editing cursor kind id := by
    rw [mem_foldl_ask]
    constructor
    · rintro (h | ⟨q, hq, hkind, hid⟩)
      · cases kind <;> exact absurd h Std.TreeSet.not_mem_emptyc
      · rw [file_of_mem_queries hq, mem_kept] at hid
        exact ⟨⟨q, hq, hkind, hid.1⟩, hid.2.1, hid.2.2⟩
    · rintro ⟨⟨q, hq, hkind, hnamed⟩, hother, hchunk⟩
      refine .inr ⟨q, hq, hkind, ?_⟩
      rw [file_of_mem_queries hq, mem_kept]
      exact ⟨hnamed, hother, hchunk⟩
  rw [← hasked]
  cases kind with
  | references => simp [related, Related.ofKind, neighbors]
  | definition => simp [related, Related.ofKind, neighbors]
  | hover => simp [Related.ofKind, neighbors]

theorem exists_get?_of_mem_related (kind : QueryKind) {id : String}
    (h : id ∈ (related s c editing cursor).ofKind kind) : ∃ chunk, s.get? id = some chunk := by
  rcases (mem_related kind).mp h with h | h
  · exact h.chunk
  · cases kind with
    | references => exact Catalog.contains_iff.mp (List.mem_filter.mp h).2
    | definition => exact Catalog.contains_iff.mp (List.mem_filter.mp h).2
    | hover => exact absurd h List.not_mem_nil

theorem symbol_related :
    (related s c editing cursor).symbol =
      cursor.bind fun at_ => (c.shown editing at_).bind hoverSymbol := by
  have hfold : (related s c editing cursor).symbol =
      ((queries editing cursor).foldl (ask s c) {}).symbol := rfl
  rw [hfold]
  cases cursor with
  | none =>
    rw [queries_none]
    exact symbol_foldl_ask (by simp) _
  | some at_ =>
    -- The hover question is the last one, so nothing is forgotten after it.
    obtain ⟨qs, hqs, hkinds⟩ : ∃ qs, queries editing (some at_) = qs ++ [⟨.hover, editing, at_⟩] ∧
        ∀ q ∈ qs, q.kind ≠ .hover := by
      rw [queries_some]
      split
      · exact ⟨[_, _], rfl, by simp⟩
      · exact ⟨[_, _, _], rfl, by simp⟩
    have hsymbol := symbol_foldl_ask (s := s) (c := c) hkinds {}
    rw [hqs, List.foldl_append]
    cases h : c.hover editing at_ with
    | error _ => simp [ask, Collaborator.shown, Except.toOption, h, hsymbol]
    | ok text => simp [ask, Collaborator.shown, Except.toOption, h]

theorem strictly_ascending (t : Std.TreeSet String) : t.toList.Pairwise (· < ·) :=
  Std.TreeSet.ordered_toList.imp fun {_ _} h => compare_lt_iff_lt.mp h

theorem toList_congr {t u : Std.TreeSet String} (h : ∀ id, id ∈ t ↔ id ∈ u) :
    t.toList = u.toList :=
  (Std.TreeSet.Equiv.of_forall_mem_iff h).toList_eq

/-! ## Boosts -/

theorem getElem?_insertMany_const (boosts : Boosts) (ids : List String) (factor : Float)
    (id : String) :
    (boosts.insertMany (ids.map (·, factor)))[id]? =
      if id ∈ ids then some factor else boosts[id]? := by
  induction ids generalizing boosts with
  | nil => simp
  | cons head tail ih =>
    rw [List.map_cons, Std.TreeMap.insertMany_cons, ih, Std.TreeMap.getElem?_insert]
    by_cases htail : id ∈ tail
    · rw [if_pos htail, if_pos (List.mem_cons_of_mem head htail)]
    · simp only [Std.LawfulEqCmp.compare_eq_iff_eq, List.mem_cons, htail, or_false, if_false,
        eq_comm (a := id)]

/-- A related file is raised once, also when it is related in both ways. -/
theorem getElem?_boosts {factor : Float} {r : Related} {id : String} :
    (boosts factor r)[id]? =
      if id ∈ r.referencing ∨ id ∈ r.dependencies then some factor else none := by
  unfold boosts
  rw [Std.TreeMap.ofList_eq_insertMany_empty, getElem?_insertMany_const]
  simp

theorem contains_boosts {factor : Float} {r : Related} {id : String} :
    (boosts factor r).contains id = true ↔ id ∈ r.referencing ∨ id ∈ r.dependencies := by
  rw [Std.TreeMap.contains_eq_isSome_getElem?, getElem?_boosts]
  split <;> simp_all

end Lookup

namespace LookupRequest

variable {r : LookupRequest} {s : Snapshot} {c : Collaborator} {file : String}

/-- The selection around the files that were gathered. -/
def around (r : LookupRequest) (editing : String) (related : Lookup.Related) (s : Snapshot) :
    EnhancedSelection :=
  let boosts := Lookup.boosts r.boost related
  let selection := r.base.runWith boosts [editing] s
  { selection
    enhancement :=
      { editingFile := some editing
        symbolAtCursor := related.symbol
        referencingFiles := related.referencing.toList
        dependencyFiles := related.dependencies.toList
        boostedFiles := (selection.chunks.map (·.id)).filter boosts.contains }
    queries := Lookup.queries editing r.position }

theorem run_idle {collaborator : Option Collaborator}
    (h : r.editingFile = none ∨ ∀ c, collaborator = some c → c.active = false) :
    r.run collaborator s = ⟨r.base.run s, {}, []⟩ := by
  rcases h with h | h
  · simp [run, plain, h]
  · have hfilter : collaborator.filter (·.active) = none := by
      rw [Option.filter_eq_none_iff]
      intro c hc
      rw [h c hc]
      exact Bool.false_ne_true
    unfold run
    rw [hfilter]
    cases r.editingFile <;> rfl

theorem run_active (hfile : r.editingFile = some file) (hactive : c.active = true) :
    r.run (some c) s =
      if (Lookup.related s c (normalizeId file) r.position).referencing.toList = [] ∧
          (Lookup.related s c (normalizeId file) r.position).dependencies.toList = [] then
        ⟨r.base.run s, {}, Lookup.queries (normalizeId file) r.position⟩
      else r.around (normalizeId file) (Lookup.related s c (normalizeId file) r.position) s := by
  have hempty : ∀ t : Std.TreeSet String, t.isEmpty = true ↔ t.toList = [] := fun t => by
    rw [← Std.TreeSet.isEmpty_toList, List.isEmpty_iff]
  simp only [run, hfile, Option.map_some, Option.filter_some, hactive, if_true, Bool.and_eq_true,
    hempty]
  rfl

/-- Either nobody is asked, or the run is that of an active collaborator about a file. -/
theorem idle_or_active (r : LookupRequest) (collaborator : Option Collaborator) :
    (r.editingFile = none ∨ ∀ c, collaborator = some c → c.active = false) ∨
      ∃ file c, r.editingFile = some file ∧ collaborator = some c ∧ c.active = true := by
  cases hfile : r.editingFile with
  | none => exact .inl (.inl rfl)
  | some file =>
    cases collaborator with
    | none => exact .inl (.inr fun _ h => by simp at h)
    | some c =>
      cases hactive : c.active with
      | false => exact .inl (.inr fun d h => by rw [← Option.some.inj h, hactive])
      | true => exact .inr ⟨file, c, rfl, rfl, hactive⟩

/-- Whoever is asked, a run selects with boosts that are all the same. -/
theorem exists_runWith (r : LookupRequest) (collaborator : Option Collaborator) (s : Snapshot) :
    ∃ (boosts : Boosts) (pinned : List String),
      (r.run collaborator s).selection = r.base.runWith boosts pinned s ∧
        ∀ (id : String) (boost : Float), boosts[id]? = some boost → boost = r.boost := by
  have hplain : ∀ (id : String) (boost : Float), (∅ : Boosts)[id]? = some boost →
      boost = r.boost := by simp
  rcases idle_or_active r collaborator with hidle | ⟨file, c, hfile, rfl, hactive⟩
  · exact ⟨∅, [], by rw [run_idle hidle]; rfl, hplain⟩
  · rw [run_active hfile hactive]
    split
    · exact ⟨∅, [], rfl, hplain⟩
    · refine ⟨_, _, rfl, fun id boost hboost => ?_⟩
      rw [Lookup.getElem?_boosts] at hboost
      split at hboost
      · exact (Option.some.inj hboost).symm
      · cases hboost

/-- The files that a run reports are the related ones, also if it falls back. -/
theorem files_run (hfile : r.editingFile = some file) (hactive : c.active = true) :
    (r.run (some c) s).enhancement.referencingFiles =
        (Lookup.related s c (normalizeId file) r.position).referencing.toList ∧
      (r.run (some c) s).enhancement.dependencyFiles =
        (Lookup.related s c (normalizeId file) r.position).dependencies.toList := by
  rw [run_active hfile hactive]
  split
  · next h => exact ⟨h.1.symm, h.2.symm⟩
  · exact ⟨rfl, rfl⟩

end LookupRequest
end Dossier
