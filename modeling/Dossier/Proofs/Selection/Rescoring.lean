import Dossier.Proofs.Binary64.Sum
import Dossier.Proofs.Selection.Offers
import Dossier.Proofs.Selection.Related

/-!
# Boosting is rescoring

A selection around an edited file is a plain selection. The importance of the related files is
raised in the snapshot beforehand, once for each of them, and the edited file becomes the first of
the priority files. **`run_rescored`** says that this gives the same selection as the boosts do
while it is made, whatever the strategy; in particular the edited file is selected first, if it fits
at all.
-/

set_option autoImplicit false

namespace Dossier

/-! ## Raised importances -/

/-- A number in `[0, 1]` stays when it is brought there again, and when zero is added before. -/
theorem clampUnit_add_zero {x : Float} (hx : x ≠ -0.0) :
    clampUnit (clampUnit x + 0.0) = clampUnit x := by
  by_cases hlow : x < 0.0
  · have h : clampUnit x = 0.0 := if_pos hlow
    rw [h]
    rfl
  · by_cases hhigh : 1.0 < x
    · have h : clampUnit x = 1.0 := by
        unfold clampUnit
        rw [if_neg hlow, if_pos hhigh]
      rw [h]
      rfl
    · have h : clampUnit x = x := by
        unfold clampUnit
        rw [if_neg hlow, if_neg hhigh]
      rw [h, Binary64.add_posZero hx, h]

/-- The chunk with its importance raised, if it has one of the ids. -/
def Chunk.rescored (ids : List String) (boost : Float) (c : Chunk) : Chunk :=
  if c.id ∈ ids then { c with importance := clampUnit (c.importance + boost) } else c

theorem Chunk.rescored_id (ids : List String) (boost : Float) (c : Chunk) :
    (c.rescored ids boost).id = c.id := by
  unfold rescored
  split <;> rfl

/-- Raising a chunk beforehand comes to the same as raising it for the request. -/
theorem Chunk.boosted_rescored {ids : List String} {boost : Float} {boosts : Boosts} {c : Chunk}
    (hboosts : boosts[c.id]? = if c.id ∈ ids then some boost else none)
    (hpos : 0.0 ≤ c.importance) (hne : c.importance ≠ -0.0) (hboost : 0.0 ≤ boost) :
    (c.rescored ids boost).boosted ∅ = c.boosted boosts := by
  unfold boosted rescored
  rw [hboosts]
  split
  · simp only [Std.TreeMap.getElem?_emptyc, Option.getD_none, Option.getD_some,
      clampUnit_add_zero (Binary64.add_ne_negZero hpos hne hboost)]
  · simp only [Std.TreeMap.getElem?_emptyc, Option.getD_none]

namespace Snapshot

/-- The snapshot in which the chunks with the ids have their importance raised. -/
def rescored (s : Snapshot) (ids : List String) (boost : Float) : Snapshot :=
  { s with chunks := Catalog.ofList (s.chunks.toList.map (Chunk.rescored ids boost)) }

variable (s : Snapshot) (ids : List String) (boost : Float)

theorem ordered_map_rescored :
    (s.chunks.toList.map (Chunk.rescored ids boost)).Pairwise
      fun c d => compare c.id d.id = .lt := by
  rw [List.pairwise_map]
  simp only [Chunk.rescored_id]
  exact s.chunks.ordered_toList

theorem toList_rescored :
    (s.rescored ids boost).chunks.toList = s.chunks.toList.map (Chunk.rescored ids boost) :=
  Catalog.toList_ofList (s.ordered_map_rescored ids boost)

theorem get?_rescored (id : String) :
    (s.rescored ids boost).get? id = (s.get? id).map (Chunk.rescored ids boost) := by
  have hmem : ∀ c, (s.rescored ids boost).get? id = some c ↔
      c ∈ s.chunks.toList.map (Chunk.rescored ids boost) ∧ c.id = id := by
    intro c
    rw [← toList_rescored, Catalog.mem_toList]
    constructor
    · intro h
      have hid : c.id = id := Catalog.id_of_get? h
      rw [hid]
      exact ⟨h, rfl⟩
    · rintro ⟨h, rfl⟩
      exact h
  apply Option.ext
  intro c
  rw [hmem, Option.map_eq_some_iff, List.mem_map]
  constructor
  · rintro ⟨⟨d, hd, rfl⟩, hid⟩
    rw [Chunk.rescored_id] at hid
    exact ⟨d, by rw [← hid]; exact Catalog.mem_toList.mp hd, rfl⟩
  · rintro ⟨d, hd, rfl⟩
    rw [Chunk.rescored_id]
    exact ⟨⟨d, Catalog.mem_toList_of_get? hd, rfl⟩, Catalog.id_of_get? hd⟩

end Snapshot

namespace SelectionRequest

variable {r : SelectionRequest} {s : Snapshot} {ids : List String} {boost : Float} {boosts : Boosts}

theorem candidates_rescored
    (hsame : ∀ c ∈ s.chunks.toList, (c.rescored ids boost).boosted ∅ = c.boosted boosts) :
    r.candidates ∅ (s.rescored ids boost) = r.candidates boosts s := by
  have hmap : (s.chunks.toList.map (Chunk.rescored ids boost)).map (Chunk.boosted ∅) =
      s.chunks.toList.map (Chunk.boosted boosts) := by
    rw [List.map_map]
    exact List.map_congr_left hsame
  unfold candidates
  rw [Snapshot.toList_rescored, hmap]

theorem forced_rescored
    (hsame : ∀ c ∈ s.chunks.toList, (c.rescored ids boost).boosted ∅ = c.boosted boosts)
    (pinned : List String) :
    r.forced ∅ pinned (s.rescored ids boost) = r.forced boosts pinned s := by
  unfold forced
  refine List.filterMap_congr fun text _ => ?_
  rw [Snapshot.get?_rescored]
  cases h : s.get? (normalizeId text) with
  | none => rfl
  | some c =>
    rw [Option.map_some, Option.map_some, Option.map_some, hsame c (Catalog.mem_toList_of_get? h)]

theorem normalizeId_normalizeId (text : String) :
    normalizeId (normalizeId text) = normalizeId text :=
  spells_iff.mp ⟨⟨0, rfl⟩, (spells_iff.mpr (rfl : normalizeId text = normalizeId text)).2⟩

theorem forced_pinned (boosts : Boosts) (text : String) (s : Snapshot) :
    ({ r with priorityFiles := text :: r.priorityFiles } : SelectionRequest).forced boosts [] s =
      r.forced boosts [normalizeId text] s := by
  unfold forced
  simp only [List.nil_append, List.cons_append, List.filterMap_cons,
    normalizeId_normalizeId]

theorem run_priority
    (hsame : ∀ c ∈ s.chunks.toList, (c.rescored ids boost).boosted ∅ = c.boosted boosts)
    (text : String) :
    ({ r with priorityFiles := text :: r.priorityFiles } : SelectionRequest).run
        (s.rescored ids boost) = r.runWith boosts [normalizeId text] s := by
  have hcandidates : r.candidates ∅ (s.rescored ids boost) = r.candidates boosts s :=
    candidates_rescored hsame
  have hforced := (forced_pinned (r := r) ∅ text (s.rescored ids boost)).trans
    (forced_rescored hsame [normalizeId text])
  unfold run runWith
  rw [hforced]
  -- Nothing else of the request has changed, so the two selections have one shape.
  show ((Budget.ofLimit r.maxTokens).pack (_ ++ (Candidate.order r.strategy (!r.words.isEmpty)
    (r.candidates ∅ (s.rescored ids boost))).map (·.chunk))).1.finish
      (r.candidates ∅ (s.rescored ids boost)).length = _
  rw [hcandidates]
  rfl

/-- A pinned chunk that fits is selected first, whatever the filters say. -/
theorem runWith_pinned (boosts : Boosts) {id : String} {c : Chunk} (hc : s.get? id = some c)
    (hid : normalizeId id = id) (hfits : c.tokens ≤ r.maxTokens) :
    ∃ rest, (r.runWith boosts [id] s).chunks = c.boosted boosts :: rest := by
  have hforced : r.forced boosts [id] s = c.boosted boosts :: r.forced boosts [] s := by
    simp only [forced, List.cons_append, List.nil_append, List.filterMap_cons, hid, hc,
      Option.map_some]
  have hprefix := Budget.isPrefix_pack_cons r.maxTokens (c := c.boosted boosts)
    (r.forced boosts [] s ++ (r.ordered boosts s).map (·.chunk)) hfits
  rw [← List.cons_append, ← hforced] at hprefix
  obtain ⟨rest, hrest⟩ := hprefix
  exact ⟨rest, hrest.symm⟩

end SelectionRequest

namespace LookupRequest

variable {r : LookupRequest} {s : Snapshot} {collaborator : Option Collaborator} {file : String}

/-- A run that contributes something raises the files that it reports, each once. -/
theorem exists_boosts (hfile : r.editingFile = some file)
    (hsome : (r.run collaborator s).enhancement.isEmpty = false) :
    ∃ boosts : Boosts,
      (r.run collaborator s).selection = r.base.runWith boosts [normalizeId file] s ∧
        ∀ id, boosts[id]? =
          if id ∈ (r.run collaborator s).enhancement.referencingFiles ++
            (r.run collaborator s).enhancement.dependencyFiles then some r.boost else none := by
  rcases idle_or_active r collaborator with hidle | ⟨file', c, hfile', rfl, hactive⟩
  · rw [run_idle hidle] at hsome
    exact absurd hsome (by simp [Enhancement.isEmpty])
  · obtain rfl : file = file' := Option.some.inj (hfile.symm.trans hfile')
    refine ⟨Lookup.boosts r.boost (Lookup.related s c (normalizeId file) r.position), ?_, ?_⟩
    · rw [run_active hfile hactive] at hsome ⊢
      split at hsome
      · exact absurd hsome (by simp [Enhancement.isEmpty])
      · next hrelated =>
        rw [if_neg hrelated]
        rfl
    · intro id
      obtain ⟨hreferencing, hdependencies⟩ := files_run (s := s) hfile hactive
      rw [hreferencing, hdependencies, Lookup.getElem?_boosts]
      simp only [List.mem_append, Std.TreeSet.mem_toList]

/--
**A selection around an edited file is a plain one.** The snapshot is rescored, and the file comes
before the priority files. If a chunk of the file fits the budget at all, it is selected first.
-/
theorem run_rescored
    (hscored : ∀ c ∈ s.chunks.toList, 0.0 ≤ c.importance ∧ c.importance ≠ -0.0)
    (hboost : 0.0 ≤ r.boost) (hfile : r.editingFile = some file)
    (hsome : (r.run collaborator s).enhancement.isEmpty = false) :
    (r.run collaborator s).selection =
        ({ r.base with priorityFiles := file :: r.base.priorityFiles } : SelectionRequest).run
          (s.rescored ((r.run collaborator s).enhancement.referencingFiles ++
            (r.run collaborator s).enhancement.dependencyFiles) r.boost) ∧
      ∀ c, s.get? (normalizeId file) = some c → c.tokens ≤ r.base.maxTokens →
        ((r.run collaborator s).selection.chunks.head?).map (·.id) = some (normalizeId file) := by
  obtain ⟨boosts, hselection, hboosts⟩ := exists_boosts hfile hsome
  constructor
  · have hsame : ∀ c ∈ s.chunks.toList,
        (c.rescored ((r.run collaborator s).enhancement.referencingFiles ++
          (r.run collaborator s).enhancement.dependencyFiles) r.boost).boosted ∅ =
            c.boosted boosts := by
      intro c hc
      obtain ⟨hpos, hne⟩ := hscored c hc
      exact Chunk.boosted_rescored (hboosts c.id) hpos hne hboost
    rw [SelectionRequest.run_priority hsame, hselection]
  · intro c hc hfits
    obtain ⟨rest, hrest⟩ := SelectionRequest.runWith_pinned (r := r.base) boosts hc
      (SelectionRequest.normalizeId_normalizeId file) hfits
    rw [hselection, hrest, List.head?_cons, Option.map_some, Chunk.boosted_id]
    exact congrArg some (Catalog.id_of_get? hc)

/-- A file and a test of it. -/
def sampleSnapshot : Snapshot where
  root := "/repo"
  chunks := .ofList
    [⟨"lib.rs", "lib.rs", "", 10, 0.75, .coreModule, [], []⟩,
      ⟨"test.rs", "test.rs", "", 10, 0.25, .test, [], []⟩]
  entryPoints := []
  coreModules := []
  imports := .empty
  importers := .empty
  totalTokens := 20

/-- Someone who names the file whatever is asked about. -/
def sampleCollaborator : Collaborator where
  active := true
  references := fun _ _ => .ok ["file:///repo/./lib.rs"]
  definition := fun _ _ => .error .unavailable
  hover := fun _ _ => .ok none

def sampleLookup : LookupRequest := { editingFile := some "./test.rs" }

/-- The filters drop tests, and yet a test that is edited comes first. -/
theorem run_rescored_sampleLookup :
    (∀ c ∈ sampleSnapshot.chunks.toList, 0.0 ≤ c.importance ∧ c.importance ≠ -0.0) ∧
      0.0 ≤ sampleLookup.boost ∧
      (sampleLookup.run (some sampleCollaborator) sampleSnapshot).enhancement.isEmpty = false ∧
      ((sampleLookup.run (some sampleCollaborator) sampleSnapshot).selection.chunks.head?).map
        (·.id) = some "test.rs" := by
  have hscored : ∀ c ∈ sampleSnapshot.chunks.toList, 0.0 ≤ c.importance ∧ c.importance ≠ -0.0 := by
    decide
  have hboost : 0.0 ≤ sampleLookup.boost := by decide
  have hsome :
      (sampleLookup.run (some sampleCollaborator) sampleSnapshot).enhancement.isEmpty = false := by
    decide
  have hfirst := (run_rescored hscored hboost rfl hsome).2 _ rfl (by decide)
  exact ⟨hscored, hboost, hsome, hfirst⟩

end LookupRequest
end Dossier
