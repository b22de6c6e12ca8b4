import Dossier.Proofs.Analysis.Connections
import Dossier.Proofs.Binary64.Arithmetic
import Dossier.Proofs.Selection.Rescoring
import Mathlib

/-!
# Importance

The importance of a chunk is its base importance and a gain for its dependents, as a share of the
most that a chunk has (`Weighted`). **Every snapshot of an analyzer is weighted so**
(`build_weighted`): nothing is lost and no more than a fifth is gained, more dependents make a chunk
no less important, and nothing leaves the range from zero to one, neither here nor in a selection
that raises chunks further.

All of this comes from one formula for the value of an importance (`importance_hasValue`), in which
rounding keeps the order.
-/

set_option autoImplicit false

namespace Dossier

open Binary64

/-! ## Base importance -/

namespace BaseImportance

/-- However deep a file is, no more is taken off than a count can be. -/
theorem lost_hasValue (path : String) : ∃ q, HasValue (ofCount (path.toList.count '/') * 0.02) q ∧
    0 ≤ q ∧ q ≤ 2 ^ (64 : ℤ) := by
  obtain ⟨step, hstep, hstep0, hstep1⟩ :=
    inUnit_iff.mpr (by decide : (0.0 : Float) ≤ 0.02 ∧ (0.02 : Float) ≤ 1.0)
  have hdepth := ofCount_hasValue (path.toList.count '/')
  have hdepth0 := countValue_nonneg (path.toList.count '/')
  have hdepth1 := countValue_le (path.toList.count '/')
  generalize countValue (path.toList.count '/') = depth at hdepth hdepth0 hdepth1
  have hlost0 : 0 ≤ depth * step := mul_nonneg hdepth0 hstep0
  have hlost1 : depth * step ≤ 2 ^ (64 : ℤ) := (mul_le_of_le_one_right hdepth0 hstep1).trans hdepth1
  have hlost := mul_hasValue hdepth hstep (abs_nearest_lt ((abs_of_nonneg hlost0).le.trans hlost1))
  exact ⟨_, hlost, nearest_nonneg hlost0, nearest_le hlost1 (representable_two_zpow (by decide))⟩

theorem inUnit_depthBonus (path : String) : InUnit (depthBonus path) := by
  obtain ⟨most, hmost, hmost0, hmost1⟩ :=
    inUnit_iff.mpr (by decide : (0.0 : Float) ≤ 0.1 ∧ (0.1 : Float) ≤ 1.0)
  obtain ⟨lost, hlost, hlost0, hlost1⟩ := lost_hasValue path
  have hleft : |most - lost| ≤ 2 ^ (64 : ℤ) := by
    rw [abs_le]
    norm_num at hlost1 ⊢
    constructor <;> linarith
  have hbonus := sub_hasValue hmost hlost (abs_nearest_lt hleft)
  have hle : nearest (most - lost) ≤ most := nearest_le (by linarith) hmost.representable
  unfold depthBonus
  dsimp only
  split
  · next h => exact ⟨_, hbonus, ((lt_iff hasValue_zero hbonus).mp h).le, hle.trans hmost1⟩
  · exact ⟨0, hasValue_zero, le_rfl, zero_le_one⟩

theorem inUnit_indexBonus (path : String) : InUnit (indexBonus path) := by
  rw [inUnit_iff]
  unfold indexBonus
  dsimp only
  split <;> decide

theorem baseScore_hasValue (r : Role) : ∃ q, HasValue r.baseScore q ∧ 0 < q ∧ q ≤ 1 := by
  have hpos : 0.0 < r.baseScore := by cases r <;> decide
  have hunit : 0.0 ≤ r.baseScore ∧ r.baseScore ≤ 1.0 := by cases r <;> decide
  obtain ⟨q, hq, -, hq1⟩ := inUnit_iff.mpr hunit
  exact ⟨q, hq, (lt_iff hasValue_zero hq).mp hpos, hq1⟩

end BaseImportance

/-- Sums of scores and bonuses are far from being too great. -/
theorem add_score {x y : Float} {p q : ℚ} (hx : HasValue x p) (hy : HasValue y q) (hp0 : 0 ≤ p)
    (hp2 : p ≤ 2) (hq0 : 0 ≤ q) (hq1 : q ≤ 1) : HasValue (x + y) (nearest (p + q)) := by
  refine add_hasValue hx hy (abs_nearest_lt ?_)
  rw [abs_of_nonneg (by linarith)]
  norm_num
  linarith

/-- The base importance is positive, and one at most. -/
theorem baseImportance_hasValue (path : String) (r : Role) :
    ∃ q, HasValue (baseImportance path r) q ∧ 0 < q ∧ q ≤ 1 := by
  obtain ⟨score, hscore, hscore0, hscore1⟩ := BaseImportance.baseScore_hasValue r
  obtain ⟨depth, hdepth, hdepth0, hdepth1⟩ := BaseImportance.inUnit_depthBonus path
  obtain ⟨index, hindex, hindex0, hindex1⟩ := BaseImportance.inUnit_indexBonus path
  have hsum := add_score hscore hdepth hscore0.le (by linarith) hdepth0 hdepth1
  have hle : score ≤ nearest (score + depth) := le_nearest (by linarith) hscore.representable
  have hsum2 : nearest (score + depth) ≤ ((2 : ℤ) : ℚ) :=
    nearest_le (by push_cast; linarith) (representable_intCast (by decide))
  have htotal := add_score hsum hindex (hscore0.le.trans hle) (by exact_mod_cast hsum2) hindex0
    hindex1
  have hlast : nearest (score + depth) ≤ nearest (nearest (score + depth) + index) :=
    le_nearest (by linarith) hsum.representable
  exact ⟨_, hasValue_capped htotal, lt_min (hscore0.trans_le (hle.trans hlast)) one_pos,
    min_le_right _ _⟩

/-! ## Gains -/

namespace Connectivity

/-- The value of the weight, next to a fifth. -/
def weightValue : ℚ := 7205759403792794 * 2 ^ (-55 : ℤ)

theorem weight_hasValue : HasValue weight weightValue := by
  have hunpack : weight.toModel.unpack = .finite .positive 7205759403792794 (-55) (by decide) := rfl
  exact_mod_cast hasValue_of_unpack hunpack

theorem weightValue_pos : 0 < weightValue := by
  norm_num [weightValue]

theorem weightValue_le : weightValue ≤ 1 := by
  norm_num [weightValue]

theorem add_weight_hasValue {x : Float} {p : ℚ} (hx : HasValue x p) (h0 : 0 ≤ p) (h1 : p ≤ 1) :
    HasValue (x + 0.2) (nearest (p + weightValue)) :=
  add_score hx weight_hasValue h0 (h1.trans one_le_two) weightValue_pos.le weightValue_le

/-- The sum with the weight is the exact one with a fifth, but for what is rounded. -/
theorem nearest_add_weight_le {p : ℚ} (h0 : 0 ≤ p) (h1 : p ≤ 1) :
    nearest (p + weightValue) ≤ p + 1 / 5 + 1 / 2 ^ 52 := by
  have hsmall : |p + weightValue| < 2 ^ ((-52 : ℤ) + 53) := by
    rw [abs_of_nonneg (add_nonneg h0 weightValue_pos.le)]
    norm_num [weightValue]
    linarith
  have herror := (abs_le.mp (abs_nearest_sub_le (by decide) hsmall)).2
  norm_num [weightValue] at herror ⊢
  linarith

/-- The value of a gain. -/
def gainValue (count most : ℕ) : ℚ :=
  nearest (nearest (countValue count / countValue most) * weightValue)

section Gains

variable {count most : ℕ}

theorem share_nonneg (count most : ℕ) : 0 ≤ nearest (countValue count / countValue most) :=
  nearest_nonneg (div_nonneg (countValue_nonneg _) (countValue_nonneg _))

theorem share_le (h : count ≤ most) : nearest (countValue count / countValue most) ≤ 1 := by
  have hle : countValue count / countValue most ≤ ((1 : ℤ) : ℚ) := by
    rw [Int.cast_one]
    exact div_le_one_of_le₀ (countValue_mono h) (countValue_nonneg _)
  exact_mod_cast nearest_le hle (representable_intCast (by decide))

theorem gainValue_nonneg (count most : ℕ) : 0 ≤ gainValue count most :=
  nearest_nonneg (mul_nonneg (share_nonneg count most) weightValue_pos.le)

theorem gainValue_le (h : count ≤ most) : gainValue count most ≤ weightValue :=
  nearest_le (mul_le_of_le_one_left weightValue_pos.le (share_le h)) weight_hasValue.representable

theorem gainValue_mono {count' : ℕ} (h : count ≤ count') :
    gainValue count most ≤ gainValue count' most := by
  refine nearest_mono (mul_le_mul_of_nonneg_right (nearest_mono ?_) weightValue_pos.le)
  exact div_le_div_of_nonneg_right (countValue_mono h) (countValue_nonneg _)

@[simp]
theorem gainValue_zero (most : ℕ) : gainValue 0 most = 0 := by
  simp [gainValue, nearest_zero]

/-- What has as many importers as any gains the whole weight. -/
theorem gainValue_self (h : 0 < most) : gainValue most most = weightValue := by
  have hone : nearest 1 = 1 := by
    exact_mod_cast nearest_of_representable (representable_intCast (n := 1) (by decide))
  rw [gainValue, div_self (countValue_pos h).ne', hone, one_mul]
  exact nearest_of_representable weight_hasValue.representable

theorem gain_hasValue (h : count ≤ most) (hmost : 0 < most) :
    HasValue (gain count most) (gainValue count most) := by
  have hshare1 := share_le h
  have hshare := div_hasValue (ofCount_hasValue count) (ofCount_hasValue most)
    (countValue_pos hmost).ne' (abs_nearest_lt ?_)
  · refine mul_hasValue hshare weight_hasValue (abs_nearest_lt ?_)
    rw [abs_of_nonneg (mul_nonneg (share_nonneg count most) weightValue_pos.le)]
    have hproduct := mul_le_one₀ hshare1 weightValue_pos.le weightValue_le
    exact hproduct.trans (by norm_num)
  · rw [abs_of_nonneg (div_nonneg (countValue_nonneg _) (countValue_nonneg _))]
    have hquotient := div_le_one_of_le₀ (countValue_mono h) (countValue_nonneg most)
    exact hquotient.trans (by norm_num)

/-- The value of an importance that is raised by a gain. -/
def raisedValue (base : ℚ) (count most : ℕ) : ℚ := min (nearest (base + gainValue count most)) 1

variable {base : ℚ}

theorem raisedValue_le_one (base : ℚ) (count most : ℕ) : raisedValue base count most ≤ 1 :=
  min_le_right _ _

theorem le_raisedValue (hbase : Representable base) (h1 : base ≤ 1) (count most : ℕ) :
    base ≤ raisedValue base count most :=
  le_min (le_nearest (le_add_of_nonneg_right (gainValue_nonneg count most)) hbase) h1

theorem raisedValue_le (base : ℚ) (h : count ≤ most) :
    raisedValue base count most ≤ nearest (base + weightValue) :=
  (min_le_left _ _).trans (nearest_mono (add_le_add_right (gainValue_le h) base))

theorem raisedValue_mono (base : ℚ) {count' : ℕ} (h : count ≤ count') :
    raisedValue base count most ≤ raisedValue base count' most :=
  min_le_min_right _ (nearest_mono (add_le_add_right (gainValue_mono h) base))

theorem raisedValue_zero (hbase : Representable base) (h1 : base ≤ 1) (most : ℕ) :
    raisedValue base 0 most = base := by
  rw [raisedValue, gainValue_zero, add_zero, nearest_of_representable hbase, min_eq_left h1]

theorem raisedValue_self (base : ℚ) (h : 0 < most) :
    raisedValue base most most = min (nearest (base + weightValue)) 1 := by
  rw [raisedValue, gainValue_self h]

end Gains

section Raising

variable {importers : ImportGraph} {cs : List Chunk}

theorem maxImporters_le_iff {n : ℕ} :
    maxImporters importers cs ≤ n ↔ ∀ c ∈ cs, importers.outDegree c.id ≤ n := by
  rw [maxImporters, Candidate.foldl_max_le_iff, List.forall_mem_map]
  exact and_iff_right (Nat.zero_le n)

/-- **The value of an importance** that is raised by a gain. -/
theorem raiseAll_hasValue
    (hbase : ∀ c ∈ cs, c.importance = baseImportance c.filePath c.role) {c : Chunk}
    (hc : c ∈ raiseAll importers cs) {base : ℚ}
    (hvalue : HasValue (baseImportance c.filePath c.role) base) (hbase0 : 0 ≤ base)
    (hbase1 : base ≤ 1) :
    HasValue c.importance
      (raisedValue base (importers.outDegree c.id) (maxImporters importers cs)) := by
  have hall := maxImporters_le_iff.mp (le_refl (maxImporters importers cs))
  unfold raiseAll at hc
  dsimp only at hc
  split at hc
  · next hnone =>
    -- Nothing is imported, so there is nothing to gain.
    have hzero : importers.outDegree c.id = 0 := Nat.le_zero.mp (hnone ▸ hall c hc)
    rw [hbase c hc, hzero, raisedValue_zero hvalue.representable hbase1]
    exact hvalue
  · next hsome =>
    obtain ⟨d, hd, rfl⟩ := List.mem_map.mp hc
    have hvalue : HasValue d.importance base := hbase d hd ▸ hvalue
    have hgain := gain_hasValue (hall d hd) (Nat.pos_of_ne_zero hsome)
    have hgain1 := (gainValue_le (hall d hd)).trans weightValue_le
    exact hasValue_capped
      (add_score hvalue hgain hbase0 (by linarith) (gainValue_nonneg _ _) hgain1)

end Raising
end Connectivity

/-! ## Snapshots -/

/-- The importance of a chunk before its connections count. -/
def Chunk.base (c : Chunk) : Float := baseImportance c.filePath c.role

/-- The number of chunks that import a chunk. -/
def Snapshot.popularity (s : Snapshot) (c : Chunk) : ℕ := (s.dependentsOf c.id).length

/-- How the importance of the chunks of a snapshot goes with their dependents. -/
structure Analyzer.Weighted (a : Analyzer) (s : Snapshot) : Prop where
  unit : ∀ c ∈ s.chunks.toList, 0.0 ≤ c.importance ∧ c.importance ≤ 1.0
  base_le : ∀ c ∈ s.chunks.toList, c.base ≤ c.importance
  le_base : ∀ c ∈ s.chunks.toList, c.importance ≤ c.base + 0.2
  /-- What is gained is a fifth at most, but for the rounding of the sum. -/
  gained : ∀ c ∈ s.chunks.toList, ∃ p q, HasValue c.base p ∧ HasValue c.importance q ∧
    p ≤ q ∧ q ≤ p + 1 / 5 + 1 / 2 ^ 52
  unfollowed : a.followsImports = false → ∀ c ∈ s.chunks.toList, c.importance = c.base
  unconnected : (∀ c ∈ s.chunks.toList, s.popularity c = 0) →
    ∀ c ∈ s.chunks.toList, c.importance = c.base
  unpopular : ∀ c ∈ s.chunks.toList, s.popularity c = 0 → c.importance = c.base
  monotone : ∀ c ∈ s.chunks.toList, ∀ d ∈ s.chunks.toList, c.base = d.base →
    s.popularity c ≤ s.popularity d → c.importance ≤ d.importance
  /-- What has as many dependents as any, and has some, gains all that there is to gain. -/
  popular : ∀ c ∈ s.chunks.toList, s.popularity c ≠ 0 →
    (∀ d ∈ s.chunks.toList, s.popularity d ≤ s.popularity c) →
      c.importance = if c.base + 0.2 < 1.0 then c.base + 0.2 else 1.0
  /-- Nor does any selection leave the range, if what it adds is not negative. -/
  selected : ∀ (r : SelectionRequest) (boosts : Boosts) (pinned : List String),
    (∀ (id : String) (boost : Float), boosts[id]? = some boost → 0.0 ≤ boost) →
      ∀ c ∈ (r.runWith boosts pinned s).chunks, 0.0 ≤ c.importance ∧ c.importance ≤ 1.0
  enhanced : ∀ (r : LookupRequest) (collaborator : Option Collaborator), 0.0 ≤ r.boost →
    ∀ c ∈ (r.run collaborator s).selection.chunks, 0.0 ≤ c.importance ∧ c.importance ≤ 1.0

namespace Analyzer

section Snapshots

variable {a : Analyzer} {root : String} {files : List SourceFile}

theorem toList_chunks_eq : (a.snapshotOf root files).chunks.toList =
    Connectivity.raiseAll (a.snapshotOf root files).importers (a.chunksOf files) := by
  obtain ⟨g, hg⟩ := Connectivity.raiseAll_eq_map (a.snapshotOf root files).importers
    (a.chunksOf files)
  refine Catalog.toList_ofList ?_
  show (Connectivity.raiseAll (a.snapshotOf root files).importers (a.chunksOf files)).Pairwise _
  rw [hg]
  exact List.pairwise_map.mpr (a.ordered_chunksOf files)

/-- The number of importers that the most imported chunk of the files has. -/
def mostPopular (a : Analyzer) (root : String) (files : List SourceFile) : ℕ :=
  Connectivity.maxImporters (a.snapshotOf root files).importers (a.chunksOf files)

theorem popularity_eq (c : Chunk) : (a.snapshotOf root files).importers.outDegree c.id =
    (a.snapshotOf root files).popularity c :=
  (a.connected_snapshotOf root files).degree c.id

theorem mostPopular_le_iff {n : ℕ} : a.mostPopular root files ≤ n ↔
    ∀ c ∈ (a.snapshotOf root files).chunks.toList, (a.snapshotOf root files).popularity c ≤ n := by
  rw [mostPopular, Connectivity.maxImporters_le_iff]
  -- The chunks have been raised, but their ids are the same.
  have hids : (a.snapshotOf root files).chunks.toList.map (·.id) =
      (a.chunksOf files).map (·.id) := by
    rw [Catalog.map_id_toList, map_id_chunks_snapshotOf]
  simp only [← popularity_eq]
  exact (List.forall_mem_map (f := Chunk.id) (P := fun id =>
    (a.snapshotOf root files).importers.outDegree id ≤ n)).symm.trans (hids ▸ List.forall_mem_map)

theorem importance_hasValue {c : Chunk} (hc : c ∈ (a.snapshotOf root files).chunks.toList)
    {base : ℚ} (hvalue : HasValue c.base base) (hbase0 : 0 ≤ base) (hbase1 : base ≤ 1) :
    HasValue c.importance (Connectivity.raisedValue base
      ((a.snapshotOf root files).popularity c) (a.mostPopular root files)) := by
  rw [← popularity_eq]
  rw [toList_chunks_eq] at hc
  refine Connectivity.raiseAll_hasValue (fun d hd => ?_) hc hvalue hbase0 hbase1
  obtain ⟨f, -, rfl⟩ := exists_of_mem_chunksOf hd
  rfl

theorem popularity_le {c : Chunk} (hc : c ∈ (a.snapshotOf root files).chunks.toList) :
    (a.snapshotOf root files).popularity c ≤ a.mostPopular root files :=
  mostPopular_le_iff.mp le_rfl c hc

/-- The values of a chunk's importance, before its connections count and with them. -/
theorem exists_hasValue {c : Chunk} (hc : c ∈ (a.snapshotOf root files).chunks.toList) :
    ∃ p, HasValue c.base p ∧ 0 < p ∧ p ≤ 1 ∧ HasValue c.importance (Connectivity.raisedValue p
      ((a.snapshotOf root files).popularity c) (a.mostPopular root files)) := by
  obtain ⟨p, hp, hp0, hp1⟩ := baseImportance_hasValue c.filePath c.role
  exact ⟨p, hp, hp0, hp1, importance_hasValue hc hp hp0.le hp1⟩

theorem inUnit_importance {c : Chunk} (hc : c ∈ (a.snapshotOf root files).chunks.toList) :
    InUnit c.importance := by
  obtain ⟨p, hp, hp0, hp1, himportance⟩ := exists_hasValue hc
  exact ⟨_, himportance, hp0.le.trans (Connectivity.le_raisedValue hp.representable hp1 _ _),
    Connectivity.raisedValue_le_one _ _ _⟩

theorem nonneg_importance (c : Chunk) (hc : c ∈ (a.snapshotOf root files).chunks.toList) :
    0.0 ≤ c.importance :=
  (inUnit_iff.mp (inUnit_importance hc)).1

theorem importance_of_unpopular {c : Chunk} (hc : c ∈ (a.snapshotOf root files).chunks.toList)
    (hnone : (a.snapshotOf root files).popularity c = 0) : c.importance = c.base := by
  -- Positive numbers are equal when their values are; the two zeros would not be.
  obtain ⟨p, hp, hp0, hp1, himportance⟩ := exists_hasValue hc
  rw [hnone, Connectivity.raisedValue_zero hp.representable hp1] at himportance
  exact eq_of_hasValue himportance hp hp0.ne'

/-- A chunk with as many dependents as any gains the whole weight, up to one. -/
theorem importance_of_popular {c : Chunk} (hc : c ∈ (a.snapshotOf root files).chunks.toList)
    (hsome : (a.snapshotOf root files).popularity c ≠ 0)
    (hmost : ∀ d ∈ (a.snapshotOf root files).chunks.toList,
      (a.snapshotOf root files).popularity d ≤ (a.snapshotOf root files).popularity c) :
    c.importance = if c.base + 0.2 < 1.0 then c.base + 0.2 else 1.0 := by
  obtain ⟨p, hp, hp0, hp1, himportance⟩ := exists_hasValue hc
  have hall : (a.snapshotOf root files).popularity c = a.mostPopular root files :=
    le_antisymm (popularity_le hc) (mostPopular_le_iff.mpr hmost)
  have hpos := hp0.trans_le (Connectivity.le_raisedValue hp.representable hp1
    (a.mostPopular root files) (a.mostPopular root files))
  rw [hall] at himportance
  rw [Connectivity.raisedValue_self p (hall ▸ Nat.pos_of_ne_zero hsome)] at himportance hpos
  exact eq_of_hasValue himportance
    (hasValue_capped (Connectivity.add_weight_hasValue hp hp0.le hp1)) hpos.ne'

end Snapshots

/-! ## Selections -/

theorem inUnit_clampUnit {x : Float} (h : AtLeast 0 x) : InUnit (clampUnit x) := by
  unfold clampUnit
  rcases h with hinfinite | ⟨q, hq, hx⟩
  · rw [if_neg (hinfinite.not_lt hasValue_zero), if_pos (hinfinite.lt hasValue_one)]
    exact ⟨1, hasValue_one, zero_le_one, le_rfl⟩
  · rw [if_neg fun hlt => absurd ((lt_iff hx hasValue_zero).mp hlt) (not_lt.mpr hq)]
    split
    · exact ⟨1, hasValue_one, zero_le_one, le_rfl⟩
    · next h => exact ⟨q, hx, hq, not_lt.mp fun hlt => h ((lt_iff hasValue_one hx).mpr hlt)⟩

theorem inUnit_boosted {c : Chunk} {boosts : Boosts} (hc : 0.0 ≤ c.importance)
    (hboosts : ∀ (id : String) (boost : Float), boosts[id]? = some boost → 0.0 ≤ boost) :
    InUnit (c.boosted boosts).importance := by
  refine inUnit_clampUnit (AtLeast.add le_rfl (atLeast_zero hc) (atLeast_zero ?_))
  cases hboost : boosts[c.id]? with
  | none => decide
  | some boost => exact hboosts c.id boost hboost

theorem inUnit_runWith {s : Snapshot} (hs : ∀ c ∈ s.chunks.toList, 0.0 ≤ c.importance)
    (r : SelectionRequest) {boosts : Boosts} (pinned : List String)
    (hboosts : ∀ (id : String) (boost : Float), boosts[id]? = some boost → 0.0 ≤ boost)
    {c : Chunk} (hc : c ∈ (r.runWith boosts pinned s).chunks) : InUnit c.importance := by
  have hoffer : c ∈ r.offers boosts pinned s := Budget.mem_packed_pack hc
  obtain ⟨d, hd, rfl⟩ := SelectionRequest.eq_boosted_of_mem_offers hoffer
  exact inUnit_boosted (hs d (Catalog.mem_toList.mpr hd)) hboosts

theorem inUnit_run {s : Snapshot} (hs : ∀ c ∈ s.chunks.toList, 0.0 ≤ c.importance)
    (r : LookupRequest) (collaborator : Option Collaborator) (hboost : 0.0 ≤ r.boost) {c : Chunk}
    (hc : c ∈ (r.run collaborator s).selection.chunks) : InUnit c.importance := by
  obtain ⟨boosts, pinned, hselection, hboosts⟩ := r.exists_runWith collaborator s
  rw [hselection] at hc
  exact inUnit_runWith hs r.base pinned (fun id boost h => hboosts id boost h ▸ hboost) hc

/-- Without following imports nothing has dependents. -/
theorem popularity_of_unfollowed {a : Analyzer} {root : String} {files : List SourceFile}
    (h : a.followsImports = false) {c : Chunk}
    (hc : c ∈ (a.snapshotOf root files).chunks.toList) :
    (a.snapshotOf root files).popularity c = 0 := by
  refine List.length_eq_zero_iff.mpr (List.eq_nil_iff_forall_not_mem.mpr fun id hid => ?_)
  obtain ⟨-, hmem⟩ := Snapshot.mem_dependentsOf.mp hid
  rw [← Catalog.map_id_toList] at hmem
  obtain ⟨d, hd, rfl⟩ := List.mem_map.mp hmem
  obtain ⟨-, hfollows, -⟩ :=
    ((a.connected_snapshotOf root files).dependents d hd c hc).mp hid
  exact absurd hfollows (by simp [h])

theorem weighted_snapshotOf (a : Analyzer) (root : String) (files : List SourceFile) :
    a.Weighted (a.snapshotOf root files) := by
  constructor
  case unit => exact fun c hc => inUnit_iff.mp (inUnit_importance hc)
  case base_le =>
    intro c hc
    obtain ⟨p, hp, -, hp1, himportance⟩ := exists_hasValue hc
    exact (le_iff hp himportance).mpr (Connectivity.le_raisedValue hp.representable hp1 _ _)
  case le_base =>
    intro c hc
    obtain ⟨p, hp, hp0, hp1, himportance⟩ := exists_hasValue hc
    exact (le_iff himportance (Connectivity.add_weight_hasValue hp hp0.le hp1)).mpr
      (Connectivity.raisedValue_le p (popularity_le hc))
  case gained =>
    intro c hc
    obtain ⟨p, hp, hp0, hp1, himportance⟩ := exists_hasValue hc
    exact ⟨p, _, hp, himportance, Connectivity.le_raisedValue hp.representable hp1 _ _,
      (Connectivity.raisedValue_le p (popularity_le hc)).trans
        (Connectivity.nearest_add_weight_le hp0.le hp1)⟩
  case unfollowed =>
    exact fun h c hc => importance_of_unpopular hc (popularity_of_unfollowed h hc)
  case unconnected => exact fun h c hc => importance_of_unpopular hc (h c hc)
  case unpopular => exact fun c hc => importance_of_unpopular hc
  case monotone =>
    intro c hc d hd hsame hle
    obtain ⟨p, hp, -, -, himportance⟩ := exists_hasValue hc
    obtain ⟨q, hq, -, -, himportance'⟩ := exists_hasValue hd
    obtain rfl : p = q := HasValue.unique hp (hsame ▸ hq)
    exact (le_iff himportance himportance').mpr (Connectivity.raisedValue_mono p hle)
  case popular => exact fun c hc => importance_of_popular hc
  case selected =>
    exact fun r boosts pinned hboosts c hc =>
      inUnit_iff.mp (inUnit_runWith nonneg_importance r pinned hboosts hc)
  case enhanced =>
    exact fun r collaborator hboost c hc =>
      inUnit_iff.mp (inUnit_run nonneg_importance r collaborator hboost hc)

/-- **Whatever an analyzer makes of a tree is weighted by its dependents.** -/
theorem build_weighted (a : Analyzer) (l : Located) {s : Snapshot} (hs : a.build l = .ok s) :
    a.Weighted s := by
  obtain ⟨access, entries, files, -, -, -, rfl⟩ := build_eq_ok_iff.mp hs
  exact a.weighted_snapshotOf l.path files

/-- What is imported in the pair keeps its importance, and gains no more than a fifth. -/
theorem build_weighted_samplePair :
    ∃ s, pythonAnalyzer.build ⟨"/repo", .directory {} samplePair⟩ = .ok s ∧
      ∃ c ∈ s.chunks.toList, c.id = "b.py" ∧ c.base ≤ c.importance ∧
        c.importance ≤ c.base + 0.2 ∧ c.importance ≤ 1.0 := by
  have hweighted := build_weighted pythonAnalyzer ⟨"/repo", .directory {} samplePair⟩
    build_samplePair
  have hfile : ⟨"b.py", "c = 1"⟩ ∈ sampleFiles := by decide
  obtain ⟨c, hc, hown⟩ := exists_mem_chunks_snapshotOf "/repo" unambiguous_sampleFiles hfile
  exact ⟨_, build_samplePair, c, hc, congrArg Chunk.id hown, hweighted.base_le c hc,
    hweighted.le_base c hc, (hweighted.unit c hc).2⟩

end Analyzer
end Dossier
