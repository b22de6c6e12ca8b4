import Dossier.Proofs.Selection.Related

/-!
# Lookups are harmless

A collaborator answers what it likes: files that do not exist, the edited file itself, one file many
times and in any order, or nothing. `Sanitized` says what becomes of it. Nobody is asked without
need; what is asked is fixed beforehand; only ids of chunks are reported, each once; and a
collaborator that tells the same as another leads to the same result. **`run_sanitized`** says that
every run is so.
-/

set_option autoImplicit false

namespace Dossier

namespace Collaborator

/--
Two collaborators tell the same when they are asked these questions. They name the same files, in
any order and as often as they like, and a failure stands for no file; they show the same text, and
a failure stands for none.
-/
structure Agree (c d : Collaborator) (qs : List Query) : Prop where
  active : c.active = d.active
  files : ∀ q ∈ qs, ∀ file, file ∈ c.report q ↔ file ∈ d.report q
  text : ∀ q ∈ qs, q.kind = .hover → c.shown q.file q.position = d.shown q.file q.position

theorem Agree.symm {c d : Collaborator} {qs : List Query} (h : c.Agree d qs) : d.Agree c qs :=
  ⟨h.active.symm, fun q hq file => (h.files q hq file).symm,
    fun q hq hkind => (h.text q hq hkind).symm⟩

end Collaborator

namespace Lookup

variable {s : Snapshot} {c d : Collaborator} {editing : String} {cursor : Option Position}

theorem Reported.congr (h : c.Agree d (queries editing cursor)) {kind : QueryKind} {id : String}
    (hid : Reported s c editing cursor kind id) : Reported s d editing cursor kind id := by
  obtain ⟨⟨q, hq, hkind, file, hfile, heq⟩, hother, hchunk⟩ := hid
  exact ⟨⟨q, hq, hkind, file, (h.files q hq file).mp hfile, heq⟩, hother, hchunk⟩

theorem mem_related_congr (h : c.Agree d (queries editing cursor)) (kind : QueryKind)
    (id : String) :
    id ∈ (related s c editing cursor).ofKind kind ↔
      id ∈ (related s d editing cursor).ofKind kind := by
  rw [mem_related, mem_related]
  constructor
  · rintro (hid | hid)
    · exact .inl (hid.congr h)
    · exact .inr hid
  · rintro (hid | hid)
    · exact .inl (hid.congr h.symm)
    · exact .inr hid

theorem symbol_related_congr (h : c.Agree d (queries editing cursor)) :
    (related s c editing cursor).symbol = (related s d editing cursor).symbol := by
  rw [symbol_related, symbol_related]
  cases cursor with
  | none => rfl
  | some at_ =>
    have hasked : (⟨.hover, editing, at_⟩ : Query) ∈ queries editing (some at_) := by
      rw [queries_some]
      split <;> simp
    have htext : c.shown editing at_ = d.shown editing at_ := h.text _ hasked rfl
    rw [Option.bind_some, Option.bind_some, htext]

end Lookup

namespace LookupRequest

open Lookup

/-- A chunk that has to do with the edited file, by an answer or by an import. -/
def Relates (s : Snapshot) (c : Collaborator) (editing : String) (cursor : Option Position)
    (id : String) : Prop :=
  (Reported s c editing cursor .references id ∨ id ∈ s.dependentsOf editing) ∨
    (Reported s c editing cursor .definition id ∨ id ∈ s.dependenciesOf editing)

/-- There is nothing to enhance a selection with: no edited file, nobody to ask, no related file. -/
def Fallback (r : LookupRequest) (collaborator : Option Collaborator) (s : Snapshot) : Prop :=
  ∀ file c, r.editingFile = some file → collaborator = some c → c.active = true →
    ∀ id, ¬ Relates s c (normalizeId file) r.position id

/-- What a collaborator that is asked about a file can lead to. -/
structure Answered (r : LookupRequest) (editing : String) (c : Collaborator) (s : Snapshot)
    (out : EnhancedSelection) : Prop where
  /-- Without a cursor there is one question. -/
  asked_start : r.position = none → out.queries = [⟨.references, editing, .start⟩]
  /-- With a cursor there are three or, away from the start, four. -/
  asked_cursor : ∀ cursor, r.position = some cursor →
    out.queries =
      if cursor = .start then
        [⟨.references, editing, .start⟩, ⟨.definition, editing, cursor⟩, ⟨.hover, editing, cursor⟩]
      else
        [⟨.references, editing, .start⟩, ⟨.references, editing, cursor⟩,
          ⟨.definition, editing, cursor⟩, ⟨.hover, editing, cursor⟩]
  referencing : ∀ id, id ∈ out.enhancement.referencingFiles ↔
    Reported s c editing r.position .references id ∨ id ∈ s.dependentsOf editing
  dependencies : ∀ id, id ∈ out.enhancement.dependencyFiles ↔
    Reported s c editing r.position .definition id ∨ id ∈ s.dependenciesOf editing
  referencing_ascending : out.enhancement.referencingFiles.Pairwise (· < ·)
  dependencies_ascending : out.enhancement.dependencyFiles.Pairwise (· < ·)
  chunks : ∀ id ∈ out.enhancement.referencingFiles ++ out.enhancement.dependencyFiles,
    ∃ chunk, s.get? id = some chunk
  boosted : out.enhancement.boostedFiles = (out.selection.chunks.map (·.id)).filter fun id =>
    id ∈ out.enhancement.referencingFiles ++ out.enhancement.dependencyFiles
  /-- Unless there is nothing, the file and the symbol under the cursor are told. -/
  told : out.enhancement.isEmpty = false →
    out.enhancement.editingFile = some editing ∧
      out.enhancement.symbolAtCursor =
        r.position.bind fun cursor => (c.shown editing cursor).bind hoverSymbol
  /-- Nothing but what the answers tell has any influence. -/
  steady : ∀ d, c.Agree d out.queries → r.run (some d) s = out

/-- What a run gives, whatever the collaborator does. -/
structure Sanitized (r : LookupRequest) (collaborator : Option Collaborator) (s : Snapshot)
    (out : EnhancedSelection) : Prop where
  /-- Without an edited file, or without anyone to ask, nothing is asked. -/
  idle : (r.editingFile = none ∨ ∀ c, collaborator = some c → c.active = false) →
    out = ⟨r.base.run s, {}, []⟩
  answered : ∀ file c, r.editingFile = some file → collaborator = some c → c.active = true →
    r.Answered (normalizeId file) c s out
  isEmpty_iff : out.enhancement.isEmpty = true ↔ r.Fallback collaborator s
  plain : r.Fallback collaborator s → out.selection = r.base.run s ∧ out.enhancement = {}

variable {r : LookupRequest} {s : Snapshot} {c d : Collaborator} {file : String}

theorem queries_run (hfile : r.editingFile = some file) (hactive : c.active = true) :
    (r.run (some c) s).queries = queries (normalizeId file) r.position := by
  rw [run_active hfile hactive]
  split <;> rfl

theorem run_congr (hfile : r.editingFile = some file) (hactive : c.active = true)
    (h : c.Agree d (queries (normalizeId file) r.position)) :
    r.run (some d) s = r.run (some c) s := by
  have hreferencing : (related s c (normalizeId file) r.position).referencing.toList =
      (related s d (normalizeId file) r.position).referencing.toList :=
    toList_congr (mem_related_congr h .references)
  have hdependencies : (related s c (normalizeId file) r.position).dependencies.toList =
      (related s d (normalizeId file) r.position).dependencies.toList :=
    toList_congr (mem_related_congr h .definition)
  rw [run_active hfile hactive, run_active hfile (h.active.symm.trans hactive)]
  simp only [around, boosts, hreferencing, hdependencies, symbol_related_congr h]

theorem mem_referencingFiles (hfile : r.editingFile = some file) (hactive : c.active = true)
    {id : String} :
    id ∈ (r.run (some c) s).enhancement.referencingFiles ↔
      Reported s c (normalizeId file) r.position .references id ∨
        id ∈ s.dependentsOf (normalizeId file) := by
  rw [(files_run hfile hactive).1, Std.TreeSet.mem_toList]
  exact mem_related .references

theorem mem_dependencyFiles (hfile : r.editingFile = some file) (hactive : c.active = true)
    {id : String} :
    id ∈ (r.run (some c) s).enhancement.dependencyFiles ↔
      Reported s c (normalizeId file) r.position .definition id ∨
        id ∈ s.dependenciesOf (normalizeId file) := by
  rw [(files_run hfile hactive).2, Std.TreeSet.mem_toList]
  exact mem_related .definition

theorem boostedFiles_run (hfile : r.editingFile = some file) (hactive : c.active = true) :
    (r.run (some c) s).enhancement.boostedFiles =
      ((r.run (some c) s).selection.chunks.map (·.id)).filter fun id =>
        id ∈ (r.run (some c) s).enhancement.referencingFiles ++
          (r.run (some c) s).enhancement.dependencyFiles := by
  obtain ⟨hreferencing, hdependencies⟩ := files_run (s := s) hfile hactive
  rw [hreferencing, hdependencies, run_active hfile hactive]
  split
  · next h => simp [h.1, h.2]
  · refine List.filter_congr fun id _ => ?_
    rw [Bool.eq_iff_iff, contains_boosts, decide_eq_true_iff, List.mem_append,
      Std.TreeSet.mem_toList, Std.TreeSet.mem_toList]

theorem isEmpty_run (hfile : r.editingFile = some file) (hactive : c.active = true) :
    (r.run (some c) s).enhancement.isEmpty = true ↔
      ∀ id, ¬ Relates s c (normalizeId file) r.position id := by
  have hnone : (∀ id, ¬ Relates s c (normalizeId file) r.position id) ↔
      (related s c (normalizeId file) r.position).referencing.toList = [] ∧
        (related s c (normalizeId file) r.position).dependencies.toList = [] := by
    obtain ⟨hreferencing, hdependencies⟩ := files_run (s := s) hfile hactive
    rw [← hreferencing, ← hdependencies, List.eq_nil_iff_forall_not_mem,
      List.eq_nil_iff_forall_not_mem, ← forall_and]
    refine forall_congr' fun id => ?_
    rw [mem_referencingFiles hfile hactive, mem_dependencyFiles hfile hactive, ← not_or]
    rfl
  rw [hnone, run_active hfile hactive]
  split
  · next h => exact iff_of_true rfl h
  · next h => exact iff_of_false (by simp [around, Enhancement.isEmpty]) h

theorem told_run (hfile : r.editingFile = some file) (hactive : c.active = true)
    (h : (r.run (some c) s).enhancement.isEmpty = false) :
    (r.run (some c) s).enhancement.editingFile = some (normalizeId file) ∧
      (r.run (some c) s).enhancement.symbolAtCursor =
        r.position.bind fun cursor => (c.shown (normalizeId file) cursor).bind hoverSymbol := by
  rw [run_active hfile hactive] at h ⊢
  split at h
  · exact absurd h (by simp [Enhancement.isEmpty])
  · next hsome =>
    rw [if_neg hsome]
    exact ⟨rfl, symbol_related⟩

theorem answered_run (hfile : r.editingFile = some file) (hactive : c.active = true) :
    r.Answered (normalizeId file) c s (r.run (some c) s) where
  asked_start hposition := by rw [queries_run hfile hactive, hposition, queries_none]
  asked_cursor cursor hposition := by rw [queries_run hfile hactive, hposition, queries_some]
  referencing _ := mem_referencingFiles hfile hactive
  dependencies _ := mem_dependencyFiles hfile hactive
  referencing_ascending := by
    rw [(files_run hfile hactive).1]
    exact strictly_ascending _
  dependencies_ascending := by
    rw [(files_run hfile hactive).2]
    exact strictly_ascending _
  chunks id hid := by
    obtain ⟨hreferencing, hdependencies⟩ := files_run (s := s) hfile hactive
    rw [hreferencing, hdependencies, List.mem_append, Std.TreeSet.mem_toList,
      Std.TreeSet.mem_toList] at hid
    rcases hid with hid | hid
    · exact exists_get?_of_mem_related .references hid
    · exact exists_get?_of_mem_related .definition hid
  boosted := boostedFiles_run hfile hactive
  told := told_run hfile hactive
  steady d h := by
    rw [queries_run hfile hactive] at h
    exact run_congr hfile hactive h

theorem isEmpty_run_iff (r : LookupRequest) (collaborator : Option Collaborator) (s : Snapshot) :
    (r.run collaborator s).enhancement.isEmpty = true ↔ r.Fallback collaborator s := by
  rcases idle_or_active r collaborator with hidle | ⟨file, c, hfile, rfl, hactive⟩
  · rw [run_idle hidle]
    refine iff_of_true rfl fun file c hfile hc hactive => ?_
    rcases hidle with h | h
    · exact absurd (h.symm.trans hfile) (by simp)
    · exact absurd ((h c hc).symm.trans hactive) (by simp)
  · rw [isEmpty_run hfile hactive]
    constructor
    · intro h file' c' hfile' hc' _
      cases Option.some.inj (hfile.symm.trans hfile')
      cases hc'
      exact h
    · intro h
      exact h file c hfile rfl hactive

theorem plain_of_isEmpty {collaborator : Option Collaborator}
    (h : (r.run collaborator s).enhancement.isEmpty = true) :
    (r.run collaborator s).selection = r.base.run s ∧ (r.run collaborator s).enhancement = {} := by
  rcases idle_or_active r collaborator with hidle | ⟨file, c, hfile, rfl, hactive⟩
  · rw [run_idle hidle]
    exact ⟨rfl, rfl⟩
  · rw [run_active hfile hactive] at h ⊢
    split at h
    · next hnone =>
      rw [if_pos hnone]
      exact ⟨rfl, rfl⟩
    · exact absurd h (by simp [around, Enhancement.isEmpty])

/-- **Every run is sanitised**, whatever the snapshot, the request and the collaborator. -/
theorem run_sanitized (r : LookupRequest) (collaborator : Option Collaborator) (s : Snapshot) :
    r.Sanitized collaborator s (r.run collaborator s) where
  idle h := run_idle h
  answered file c hfile hc hactive := by
    subst hc
    exact answered_run hfile hactive
  isEmpty_iff := isEmpty_run_iff r collaborator s
  plain h := plain_of_isEmpty ((isEmpty_run_iff r collaborator s).mpr h)

end LookupRequest
end Dossier
