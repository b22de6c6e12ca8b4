import Dossier.Proofs.Binary64.Arithmetic
import Dossier.Proofs.Selection.Rescoring
import Mathlib

/-!
# Bands of relevance

The score of a chunk is a sum of rounded tenths, in the order of the words of the task, and it is
seldom exact. Its band still is: **`relevanceBand_relevance`** says that it is the number of tenths
that the words are worth (`worth`), ten at most. So the order of the words does not matter for what
is selected (`runWith_about_perm`).

What a sum keeps while it grows is `Tenths`: up to nine tenths it is off by next to nothing, and
from ten on it stays at one or above, but for next to nothing.
-/

set_option autoImplicit false

namespace Dossier

open Binary64

namespace Relevance

/-! ## What words are worth -/

/-- What a word is worth to a chunk, in tenths. -/
def worth (c : Chunk) (word : String) : ℕ :=
  (if word.toList <:+: (Text.lowercase c.filePath).toList then 3 else 0) +
  (if ∃ s ∈ c.symbols, word.toList <:+: (Text.lowercase s).toList ∨
      (Text.lowercase s).toList <:+: word.toList then 2 else 0) +
  (if word.toList <:+: (Text.lowercase (String.ofList (c.content.toList.take 2000))).toList
    then 1 else 0)

section Haystack

variable (c : Chunk) (word : String)

theorem inPath_iff : (Haystack.ofChunk c).inPath word = true ↔
    word.toList <:+: (Text.lowercase c.filePath).toList := by
  rw [Haystack.inPath, Text.holds_iff]
  rfl

theorem inSymbols_iff : (Haystack.ofChunk c).inSymbols word = true ↔
    ∃ s ∈ c.symbols, word.toList <:+: (Text.lowercase s).toList ∨
      (Text.lowercase s).toList <:+: word.toList := by
  simp only [Haystack.inSymbols, Haystack.ofChunk, List.any_map, List.any_eq_true,
    Function.comp_apply, Bool.or_eq_true, Text.holds_iff]

theorem inOpening_iff : (Haystack.ofChunk c).inOpening word = true ↔
    word.toList <:+: (Text.lowercase (String.ofList (c.content.toList.take 2000))).toList := by
  rw [Haystack.inOpening, Text.holds_iff]
  rfl

end Haystack

/-! ## Sums of tenths -/

/-- What a score of one is missing at most when it should not be missing anything. -/
def slack : ℚ := 1 / 2 ^ 40

/-- The score stands for a number of tenths. -/
inductive Tenths (score : Float) (n : ℕ) : Prop where
  | few (q : ℚ) (hvalue : HasValue score q) (hn : n < 10) (hnear : |q - n / 10| ≤ n / 2 ^ 48)
  | many (hn : 10 ≤ n) (hleast : AtLeast (1 - slack) score)

theorem tenths_zero : Tenths 0.0 0 :=
  .few 0 hasValue_zero (by decide) (by simp)

/-- The weight is a positive number of tenths, correctly rounded. -/
structure Weighs (weight : Float) (k : ℕ) : Prop where
  least : 1 ≤ k
  most : k ≤ 3
  value : ∃ w, HasValue weight w ∧ |w - k / 10| ≤ 1 / 2 ^ 54

theorem weighs_path : Weighs pathWeight 3 := by
  have hunpack : pathWeight.toModel.unpack = .finite .positive 5404319552844595 (-54) (by decide) :=
    rfl
  exact ⟨by decide, by decide, _, hasValue_of_unpack hunpack, by norm_num [abs_le]⟩

theorem weighs_symbol : Weighs symbolWeight 2 := by
  have hunpack : symbolWeight.toModel.unpack =
      .finite .positive 7205759403792794 (-55) (by decide) := rfl
  exact ⟨by decide, by decide, _, hasValue_of_unpack hunpack, by norm_num [abs_le]⟩

theorem weighs_content : Weighs contentWeight 1 := by
  have hunpack : contentWeight.toModel.unpack =
      .finite .positive 7205759403792794 (-56) (by decide) := rfl
  exact ⟨by decide, by decide, _, hasValue_of_unpack hunpack, by norm_num [abs_le]⟩

/-- **One more weight keeps what the score stands for.** -/
theorem Tenths.add {score weight : Float} {n k : ℕ} (h : Tenths score n)
    (hweight : Weighs weight k) : Tenths (score + weight) (n + k) := by
  obtain ⟨hk, hk3, w, hw, hnear⟩ := hweight
  have hk : (1 : ℚ) ≤ k := by exact_mod_cast hk
  have hk3 : (k : ℚ) ≤ 3 := by exact_mod_cast hk3
  obtain ⟨hwlow, hwhigh⟩ := abs_le.mp hnear
  rcases h with ⟨q, hq, hn, hnear⟩ | ⟨hn, hleast⟩
  · obtain ⟨hqlow, hqhigh⟩ := abs_le.mp hnear
    have hnq : (0 : ℚ) ≤ n := Nat.cast_nonneg n
    have hn9 : (n : ℚ) ≤ 9 := by exact_mod_cast Nat.lt_succ_iff.mp hn
    have hsmall : |q + w| < 2 ^ ((-52 : ℤ) + 53) := by
      rw [abs_lt]
      norm_num
      constructor <;> linarith
    obtain ⟨r, hsum, herror⟩ := exists_add_hasValue hq hw (by decide) (by decide) hsmall
    obtain ⟨hlow, hhigh⟩ := abs_le.mp herror
    norm_num at hlow hhigh hqlow hqhigh hwlow hwhigh
    -- The tenth that is reached here ends the count, so the errors do not add up any further.
    by_cases hten : n + k < 10
    · refine .few r hsum hten ?_
      rw [abs_le]
      push_cast
      norm_num
      constructor <;> linarith
    · have hten : (10 : ℚ) ≤ n + k := by exact_mod_cast not_lt.mp hten
      refine .many (not_lt.mp ‹_›) (.inr ⟨r, ?_, hsum⟩)
      norm_num [slack]
      linarith
  · -- From one on the sum is only known not to become less.
    norm_num at hwlow
    exact .many (by omega) (hleast.add (by norm_num [slack]) (.inr ⟨w, by linarith, hw⟩))

theorem Tenths.addIf {score weight : Float} {n k : ℕ} (h : Tenths score n) (condition : Bool)
    (hweight : Weighs weight k) :
    Tenths (addIf condition weight score) (n + if condition then k else 0) := by
  cases condition with
  | false => exact h
  | true => exact h.add hweight

theorem Tenths.addWord {score : Float} {n : ℕ} (h : Tenths score n) (c : Chunk) (word : String) :
    Tenths (addWord (Haystack.ofChunk c) score word) (n + worth c word) := by
  have hword := ((h.addIf ((Haystack.ofChunk c).inPath word) weighs_path).addIf
    ((Haystack.ofChunk c).inSymbols word) weighs_symbol).addIf
    ((Haystack.ofChunk c).inOpening word) weighs_content
  simpa only [Relevance.addWord, worth, inPath_iff, inSymbols_iff, inOpening_iff,
    Nat.add_assoc] using hword

/-- **A score stands for what its words are worth**, in whatever order they come. -/
theorem tenths_foldl (c : Chunk) (words : List String) {score : Float} {n : ℕ}
    (h : Tenths score n) : Tenths (words.foldl (Relevance.addWord (Haystack.ofChunk c)) score)
      (n + (words.map (worth c)).sum) := by
  induction words generalizing score n with
  | nil => exact h
  | cons word words ih =>
    rw [List.map_cons, List.sum_cons, ← Nat.add_assoc, List.foldl_cons]
    exact ih (h.addWord c word)

/-! ## Bands -/

/-- The relevance is a number of tenths, but for next to nothing. -/
def Near (r : Float) (n : ℕ) : Prop := ∃ q, HasValue r q ∧ |q - n / 10| ≤ slack

/-- A score is capped at ten tenths. -/
theorem Tenths.near {score : Float} {n : ℕ} (h : Tenths score n) :
    Near (atMostOne score) (min n 10) := by
  unfold atMostOne
  rcases h with ⟨q, hq, hn, hnear⟩ | ⟨hn, hinfinite | ⟨p, hp, hscore⟩⟩
  · have hn9 : (n : ℚ) ≤ 9 := by exact_mod_cast Nat.lt_succ_iff.mp hn
    obtain ⟨hlow, hhigh⟩ := abs_le.mp hnear
    norm_num at hlow hhigh
    rw [if_pos ((lt_iff hq hasValue_one).mpr (by linarith)), min_eq_left hn.le]
    refine ⟨q, hq, ?_⟩
    rw [abs_le]
    norm_num [slack]
    constructor <;> linarith
  · rw [if_neg (hinfinite.not_lt hasValue_one), min_eq_right hn]
    exact ⟨1, hasValue_one, by norm_num [slack]⟩
  · rw [min_eq_right hn]
    split
    · next h =>
      have hlt := (lt_iff hscore hasValue_one).mp h
      refine ⟨p, hscore, ?_⟩
      rw [abs_le]
      push_cast
      constructor <;> linarith
    · exact ⟨1, hasValue_one, by norm_num [slack]⟩

theorem shift_hasValue : HasValue 1e-9 (4835703278458517 * 2 ^ (-82 : ℤ)) := by
  have hunpack : (1e-9 : Float).toModel.unpack =
      .finite .positive 4835703278458517 (-82) (by decide) := rfl
  exact_mod_cast hasValue_of_unpack hunpack

theorem ten_hasValue : HasValue 10.0 10 := by
  have hunpack : (10.0 : Float).toModel.unpack =
      .finite .positive 5629499534213120 (-49) (by decide) := rfl
  have hvalue := hasValue_of_unpack hunpack
  norm_num at hvalue
  exact hvalue

/-- The shift of a billionth is greater than all that is missing, and all that is rounded. -/
theorem Near.shifted {r : Float} {n : ℕ} (h : Near r n) (hn : n ≤ 10) :
    ∃ b : ℚ, HasValue ((r + 1e-9) * 10.0) b ∧ n ≤ b ∧ b < n + 1 := by
  obtain ⟨q, hq, hnear⟩ := h
  have hn10 : (n : ℚ) ≤ 10 := by exact_mod_cast hn
  have hn0 : (0 : ℚ) ≤ n := Nat.cast_nonneg n
  obtain ⟨hlow, hhigh⟩ := abs_le.mp hnear
  norm_num [slack] at hlow hhigh
  have hsmall : |q + 4835703278458517 * 2 ^ (-82 : ℤ)| < 2 ^ ((-52 : ℤ) + 53) := by
    rw [abs_lt]
    norm_num
    constructor <;> linarith
  obtain ⟨a, hsum, herror⟩ := exists_add_hasValue hq shift_hasValue (by decide) (by decide) hsmall
  obtain ⟨halow, hahigh⟩ := abs_le.mp herror
  norm_num at halow hahigh
  have hsmall : |a * 10| < 2 ^ ((-49 : ℤ) + 53) := by
    rw [abs_lt]
    norm_num
    constructor <;> linarith
  obtain ⟨b, hproduct, herror⟩ :=
    exists_mul_hasValue hsum ten_hasValue (by decide) (by decide) hsmall
  obtain ⟨hblow, hbhigh⟩ := abs_le.mp herror
  norm_num at hblow hbhigh
  exact ⟨b, hproduct, by linarith, by linarith⟩

/-- **What is near a number of tenths is in its band.** -/
theorem Near.band {r : Float} {n : ℕ} (h : Near r n) (hn : n ≤ 10) : relevanceBand r = n := by
  obtain ⟨b, hb, hlow, hhigh⟩ := h.shifted hn
  have hfloor : ⌊b⌋ = n := Int.floor_eq_iff.mpr ⟨by exact_mod_cast hlow, by exact_mod_cast hhigh⟩
  unfold relevanceBand
  rw [floorInt_eq hb, hfloor]
  unfold saturated signBit
  omega

end Relevance

open Relevance

theorem relevanceBand_eq (c : Chunk) (words : List String) :
    relevanceBand (relevance c words) = (min 10 (words.map (worth c)).sum : ℕ) := by
  have hnear : Near (relevance c words) (min (words.map (worth c)).sum 10) := by
    unfold relevance
    split
    · next h =>
      obtain rfl := List.isEmpty_iff.mp h
      exact ⟨0, hasValue_zero, by norm_num [slack]⟩
    · simpa using (tenths_foldl c words tenths_zero).near
  rw [hnear.band (min_le_right _ _), min_comm]

/-! ## Permuted words -/

theorem relevanceBand_perm {words words' : List String} (h : words'.Perm words) (c : Chunk) :
    relevanceBand (relevance c words') = relevanceBand (relevance c words) := by
  rw [relevanceBand_eq, relevanceBand_eq, (h.map (worth c)).sum_eq]

namespace SelectionRequest

variable (r : SelectionRequest) (boosts : Boosts) (pinned : List String) (s : Snapshot)

/-- The request by relevance, for a task. -/
def about (task : String) : SelectionRequest :=
  { r with task := some task, strategy := .relevanceFirst }

theorem map_chunk_candidates_about (task : String) :
    ((r.about task).candidates boosts s).map (·.chunk) =
      (s.chunks.toList.map (Chunk.boosted boosts)).filter r.admits := by
  rw [candidates, List.map_map]
  exact List.map_id _

/-- Whether one chunk is offered no later than another for a task. -/
def offersFirst (task : String) (c d : Chunk) : Bool :=
  let a : Candidate := ⟨c, relevance c (taskWords task)⟩
  let b : Candidate := ⟨d, relevance d (taskWords task)⟩
  if (taskWords task).isEmpty then a.byImportance b else a.byRelevance b

theorem map_chunk_ordered_about (task : String) :
    ((r.about task).ordered boosts s).map (·.chunk) =
      ((s.chunks.toList.map (Chunk.boosted boosts)).filter r.admits).mergeSort
        (offersFirst task) := by
  rw [← map_chunk_candidates_about r boosts s task]
  refine List.map_mergeSort fun a ha b hb => ?_
  -- A candidate is a chunk with its relevance, and nothing else.
  have hof : ∀ x ∈ (r.about task).candidates boosts s,
      x = ⟨x.chunk, relevance x.chunk (taskWords task)⟩ := by
    intro x hx
    obtain ⟨c, -, rfl⟩ := List.mem_map.mp hx
    rfl
  have hwords : (r.about task).words = taskWords task := rfl
  conv_lhs => rw [hof a ha, hof b hb]
  unfold offersFirst
  rw [hwords]
  cases (taskWords task).isEmpty <;> rfl

theorem offersFirst_perm {task task' : String} (h : (taskWords task').Perm (taskWords task)) :
    offersFirst task' = offersFirst task := by
  funext c d
  unfold offersFirst Candidate.byRelevance Candidate.byImportance
  simp only [relevanceBand_perm h, h.isEmpty_eq]

theorem ordered_about_perm {task task' : String} (h : (taskWords task').Perm (taskWords task)) :
    ((r.about task').ordered boosts s).map (·.chunk) =
      ((r.about task).ordered boosts s).map (·.chunk) := by
  rw [map_chunk_ordered_about, map_chunk_ordered_about, offersFirst_perm h]

theorem runWith_about_perm {task task' : String} (h : (taskWords task').Perm (taskWords task)) :
    (r.about task').runWith boosts pinned s = (r.about task).runWith boosts pinned s := by
  have hlength : ((r.about task').candidates boosts s).length =
      ((r.about task).candidates boosts s).length := by
    rw [← List.length_map (·.chunk), map_chunk_candidates_about, ← map_chunk_candidates_about,
      List.length_map]
  unfold runWith
  rw [ordered_about_perm r boosts s h, hlength]
  rfl

end SelectionRequest

/--
**Bands of relevance are exact**, so selecting by relevance does not depend on the order of the
words of the task.
-/
theorem relevanceBand_relevance :
    (∀ (c : Chunk) (words : List String),
      relevanceBand (relevance c words) = (min 10 (words.map (worth c)).sum : ℕ)) ∧
    ∀ (r : SelectionRequest) (boosts : Boosts) (pinned : List String) (s : Snapshot)
      (task task' : String), (taskWords task').Perm (taskWords task) →
      ((r.about task').ordered boosts s).map (·.chunk) =
          ((r.about task).ordered boosts s).map (·.chunk) ∧
        (r.about task').runWith boosts pinned s = (r.about task).runWith boosts pinned s :=
  ⟨relevanceBand_eq, fun r boosts pinned s _ _ h =>
    ⟨r.ordered_about_perm boosts s h, r.runWith_about_perm boosts pinned s h⟩⟩

/-- A chunk with one of two words in its path, and a request for both in either order. -/
theorem relevanceBand_relevance_sampleTask :
    let r : SelectionRequest := { includeTests := true }
    let c : Chunk := ⟨"lib.rs", "lib.rs", "// test", 2, 0.75, .coreModule, [], []⟩
    relevanceBand (relevance c (taskWords "test Lib")) = 4 ∧
      (taskWords "test Lib").Perm (taskWords "Lib test") ∧
      (r.about "test Lib").runWith ∅ [] LookupRequest.sampleSnapshot =
        (r.about "Lib test").runWith ∅ [] LookupRequest.sampleSnapshot := by
  have hperm : (taskWords "test Lib").Perm (taskWords "Lib test") := by decide
  exact ⟨(relevanceBand_relevance.1 _ _).trans (by decide), hperm,
    (relevanceBand_relevance.2 _ _ _ _ _ _ hperm).2⟩

end Dossier
