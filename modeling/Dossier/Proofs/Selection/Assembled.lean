import Dossier.Proofs.Analysis.Connections
import Dossier.Proofs.Selection.Assembly
import Dossier.Proofs.Selection.Rescoring

/-!
# What of a selection is assembled

A selection spends what the contents of its files are estimated at, and assembling what their
sections are, each with a header. So sections never cost less (`totalTokens_le_costs`), and a file
that was selected can be missing from the text: what is assembled goes as far as sections can be
afforded and stops there (**`assemble_selected`**). By the standard ratio a section costs at most
what its header would alone, beyond the content (`cost_le_add_headerCost`), so nothing is missing
from a selection that left enough for the headers.
-/

set_option autoImplicit false

namespace Dossier

open TokenEstimator

namespace Assembly

variable {e : TokenEstimator} {max : ℕ} {cs : List Chunk}

/-! ## The beginnings of what is affordable -/

theorem costs_append (cs ds : List Chunk) : costs e (cs ++ ds) = costs e cs + costs e ds := by
  unfold costs
  rw [List.map_append, List.sum_append]

theorem costs_mono {front : List Chunk} (h : front <+: cs) : costs e front ≤ costs e cs := by
  obtain ⟨back, rfl⟩ := h
  rw [costs_append]
  exact Nat.le_add_right _ _

theorem prefix_affordable_iff {front : List Chunk} (h : front <+: cs) :
    front <+: affordable e max cs ↔ costs e front ≤ max := by
  have hlongest := isLongest_affordable (e := e) max cs
  constructor
  · intro hfront
    exact (costs_mono hfront).trans hlongest.affordable
  · exact hlongest.longest front h

/-- What becomes of each section of a list, when a text is made of it under a ceiling. -/
structure Assembles (e : TokenEstimator) (max : ℕ) (cs : List Chunk) (text : String) : Prop where
  /-- A section stands in the text, behind those before it, if it can be afforded with them. -/
  present : ∀ front c back, cs = front ++ c :: back → costs e (front ++ [c]) ≤ max →
    ∃ rest, text = textOf front ++ c.excerpt ++ rest
  /-- Otherwise the text ends before it. -/
  absent : ∀ front c back, cs = front ++ c :: back → max < costs e (front ++ [c]) →
    ∃ part, part <+: front ∧ text = textOf part
  whole : costs e cs ≤ max → text = textOf cs

theorem textOf_concat (front : List Chunk) (c : Chunk) :
    textOf (front ++ [c]) = textOf front ++ c.excerpt := by
  rw [textOf_append]
  rfl

theorem assembles_affordable (e : TokenEstimator) (max : ℕ) (cs : List Chunk) :
    Assembles e max cs (textOf (affordable e max cs)) := by
  have hfront (front : List Chunk) (c : Chunk) (back : List Chunk)
      (hcs : cs = front ++ c :: back) : front ++ [c] <+: cs := ⟨back, by rw [hcs]; simp⟩
  refine ⟨?present, ?absent, fun hcosts => by rw [affordable_of_costs_le hcosts]⟩
  case present =>
    intro front c back hcs hcosts
    obtain ⟨more, hmore⟩ := (prefix_affordable_iff (hfront front c back hcs)).mpr hcosts
    exact ⟨textOf more, by rw [← hmore, textOf_append, textOf_concat]⟩
  case absent =>
    intro front c back hcs hcosts
    have hnot := (prefix_affordable_iff (e := e) (hfront front c back hcs)).not.mpr hcosts.not_ge
    -- Of two beginnings of one list one is a beginning of the other.
    have hpart := (isLongest_affordable (e := e) max cs).leading
    have hle := (List.prefix_or_prefix_of_prefix hpart (hfront front c back hcs)).resolve_right hnot
    refine ⟨affordable e max cs, (List.prefix_concat_iff.mp hle).resolve_left fun heq => ?_, rfl⟩
    exact hnot (heq ▸ List.prefix_rfl)

/-! ## Contents and headers -/

theorem sum_map_le {f : Chunk → ℕ} {n k : ℕ} (hlength : cs.length ≤ n) (h : ∀ c ∈ cs, f c ≤ k) :
    (cs.map f).sum ≤ n * k := by
  have hsum := List.sum_le_card_nsmul (cs.map f) k (List.forall_mem_map.mpr h)
  rw [List.length_map, smul_eq_mul] at hsum
  exact hsum.trans (Nat.mul_le_mul_right k hlength)

/-- What the section of a chunk would cost if the file were empty. -/
def headerCost (e : TokenEstimator) (c : Chunk) : ℕ := cost e { c with content := "" }

theorem length_excerpt (c : Chunk) :
    c.excerpt.length = ({ c with content := "" } : Chunk).excerpt.length + c.content.length := by
  unfold Chunk.excerpt
  simp only [String.length_append, String.length_empty]
  omega

/-- A section costs no less than its content. -/
theorem estimate_content_le_cost (e : TokenEstimator) (c : Chunk) :
    (e.estimate c.content).toNat ≤ cost e c := by
  refine e.toNat_estimateChars_mono ?_
  rw [length_excerpt]
  exact Nat.le_add_left _ _

/-- By the standard ratio it costs no more than its header and its content. -/
theorem cost_le_add_headerCost (c : Chunk) :
    cost standard c ≤ (standard.estimate c.content).toNat + headerCost standard c := by
  have hcost : cost standard c = (standard.estimateChars c.excerpt.length).toNat := rfl
  rw [hcost, length_excerpt, Nat.add_comm (standard.estimate c.content).toNat]
  exact toNat_estimateChars_add_le _ _

end Assembly

/-! ## Selections of a repository -/

/-- The tokens of a chunk are the estimate of its content. -/
theorem Analyzer.tokens_of_build {a : Analyzer} {l : Located} {s : Snapshot}
    (hs : a.build l = .ok s) {id : String} {c : Chunk} (hc : s.get? id = some c) :
    c.tokens = a.estimator.estimate c.content := by
  obtain ⟨access, entries, files, -, -, -, rfl⟩ := build_eq_ok_iff.mp hs
  obtain ⟨f, -, hown⟩ := exists_of_mem_chunks_snapshotOf (Catalog.mem_toList_of_get? hc)
  rw [hown]
  rfl

namespace SelectionRequest

open Assembly

section Built

variable {a : Analyzer} {l : Located} {s : Snapshot} (hs : a.build l = .ok s)
  (r : SelectionRequest) (boosts : Boosts) (pinned : List String)
include hs

/-- A selection spends what the contents of its files are estimated at. -/
theorem totalTokens_eq : (r.runWith boosts pinned s).totalTokens.toNat =
    ((r.runWith boosts pinned s).chunks.map fun c =>
      (a.estimator.estimate c.content).toNat).sum := by
  have hused := (r.sound_spent boosts pinned s).used_eq
  rw [runWith_eq]
  refine hused.trans (congrArg List.sum (List.map_congr_left fun c hc => ?_))
  obtain ⟨d, hd, rfl⟩ := eq_boosted_of_mem_offers (Budget.mem_packed_pack hc)
  exact congrArg UInt32.toNat (Analyzer.tokens_of_build hs hd : d.tokens = _)

theorem totalTokens_le_costs : (r.runWith boosts pinned s).totalTokens.toNat ≤
    costs a.estimator (r.runWith boosts pinned s).chunks := by
  rw [totalTokens_eq hs]
  exact List.sum_le_sum fun c _ => estimate_content_le_cost _ c

/-- By the standard ratio, assembling takes the headers more at most. -/
theorem costs_le_add_headers (hstandard : a.estimator = standard) :
    costs a.estimator (r.runWith boosts pinned s).chunks ≤
      (r.runWith boosts pinned s).totalTokens.toNat +
        ((r.runWith boosts pinned s).chunks.map (headerCost a.estimator)).sum := by
  rw [totalTokens_eq hs, hstandard, ← List.sum_map_add]
  exact List.sum_le_sum fun c _ => cost_le_add_headerCost c

omit hs in
theorem totalTokens_add_remainingTokens : (r.runWith boosts pinned s).totalTokens.toNat +
    (r.runWith boosts pinned s).remainingTokens.toNat = r.maxTokens.toNat := by
  have hsound := r.sound_spent boosts pinned s
  have hlimit : (r.spent boosts pinned s).limit = r.maxTokens := Budget.limit_pack _ _
  have havailable := Budget.available_toNat hsound.used_le
  have hle := UInt32.le_iff_toNat_le.mp hsound.used_le
  rw [hlimit] at havailable hle
  show (r.spent boosts pinned s).used.toNat + (r.spent boosts pinned s).available.toNat = _
  omega

/-- **What was selected is assembled as far as its sections can be afforded**, and these cost no
less than what the selection spent. By the standard ratio they cost the headers more at most, so all
that was selected is assembled when the selection left enough for them. -/
theorem assemble_selected {sel : Selection} (hsel : r.runWith boosts pinned s = sel)
    (hcounted : r.maxTokens.toNat < ceiling ∨ costs a.estimator sel.chunks ≤ ceiling) :
    ∃ text, assemble? a.estimator r.maxTokens sel.chunks = some text ∧
      Assembles a.estimator r.maxTokens.toNat sel.chunks text ∧
      sel.totalTokens.toNat ≤ costs a.estimator sel.chunks ∧
      (a.estimator = standard →
        costs a.estimator sel.chunks ≤
          sel.totalTokens.toNat + (sel.chunks.map (headerCost a.estimator)).sum ∧
        ((sel.chunks.map (headerCost a.estimator)).sum ≤ sel.remainingTokens.toNat →
          text = textOf sel.chunks)) := by
  subst hsel
  have hassembles := assembles_affordable a.estimator r.maxTokens.toNat
    (r.runWith boosts pinned s).chunks
  refine ⟨_, ?text, hassembles, totalTokens_le_costs hs r boosts pinned, fun hstandard => ?_⟩
  case text =>
    rw [assemble?_eq, if_neg fun hnone => ?_]
    rcases hcounted with hlt | hle
    · exact hlt.ne hnone.1
    · exact hle.not_gt hnone.2
  have hheaders := costs_le_add_headers hs r boosts pinned hstandard
  refine ⟨hheaders, fun henough => hassembles.whole ?_⟩
  have hbalance := totalTokens_add_remainingTokens (s := s) r boosts pinned
  omega

end Built

/-! ## A pair of modules -/

/-- A request that asks for the second module first. -/
def sampleRequest (maxTokens : UInt32) : SelectionRequest :=
  { maxTokens, priorityFiles := ["b.py"] }

/-- The pair has a snapshot, and two tokens are enough to select the second module first. -/
theorem first_samplePair (maxTokens : UInt32) (henough : 2 ≤ maxTokens) : ∃ s c rest,
    Analyzer.pythonAnalyzer.build ⟨"/repo", .directory {} Analyzer.samplePair⟩ = .ok s ∧
      ((sampleRequest maxTokens).run s).chunks = c :: rest ∧
      c.excerpt = "// File: b.py\nc = 1\n\n" := by
  have hmem : ⟨"b.py", "c = 1"⟩ ∈ Analyzer.sampleFiles := by decide
  obtain ⟨c, hc, hown⟩ :=
    Analyzer.exists_mem_chunks_snapshotOf "/repo" Analyzer.unambiguous_sampleFiles hmem
  have hs := Analyzer.build_samplePair
  have hid : c.id = "b.py" := congrArg Chunk.id hown
  have hpath : c.filePath = "b.py" := congrArg Chunk.filePath hown
  have hcontent : c.content = "c = 1" := congrArg Chunk.content hown
  have hget := Catalog.mem_toList.mp hc
  rw [hid] at hget
  have htokens : c.tokens = 2 := by
    rw [Analyzer.tokens_of_build hs hget, hcontent]
    decide
  have hfits : c.tokens ≤ maxTokens := by rwa [htokens]
  obtain ⟨rest, hrest⟩ := runWith_pinned (r := { maxTokens }) ∅ hget (by decide) hfits
  refine ⟨_, c.boosted ∅, rest, hs, hrest, ?_⟩
  show "// File: " ++ c.filePath ++ "\n" ++ c.content ++ "\n\n" = _
  rw [hpath, hcontent]
  decide

/-- A file can be selected within the budget and be missing from the text: two tokens are enough for
the content of the second module, and not for its section. -/
theorem not_every_selected_assembled :
    ¬ ∀ (a : Analyzer) (l : Located) (s : Snapshot) (r : SelectionRequest), a.build l = .ok s →
      ∀ c ∈ (r.run s).chunks, ∃ text,
        assemble? a.estimator r.maxTokens (r.run s).chunks = some text ∧
          c.excerpt.toList <:+: text.toList := by
  intro h
  obtain ⟨s, c, rest, hs, hchunks, hexcerpt⟩ := first_samplePair 2 (by decide)
  obtain ⟨text, hassembled, hinfix⟩ :=
    h _ _ s (sampleRequest 2) hs c (by rw [hchunks]; exact List.mem_cons_self)
  have hcost : (2 : UInt32).toNat < cost Analyzer.pythonAnalyzer.estimator c := by
    unfold cost
    rw [hexcerpt]
    decide
  have hnone : assemble? Analyzer.pythonAnalyzer.estimator 2 ((sampleRequest 2).run s).chunks =
      some "" := by
    rw [hchunks, assemble?_of_lt (by decide), affordable, if_neg (not_le.mpr hcost)]
    rfl
  obtain rfl := Option.some.inj (hnone.symm.trans hassembled)
  rw [hexcerpt] at hinfix
  exact absurd (List.infix_nil.mp hinfix) (by decide)

/-- What is selected of the pair costs at most four tokens for each content and for each header. -/
theorem spent_samplePair {s : Snapshot}
    (hs : Analyzer.pythonAnalyzer.build ⟨"/repo", .directory {} Analyzer.samplePair⟩ = .ok s)
    (r : SelectionRequest) : (r.run s).totalTokens.toNat ≤ 2 * 4 ∧
      ((r.run s).chunks.map (headerCost standard)).sum ≤ 2 * 4 := by
  have hchunk : ∀ c ∈ (r.run s).chunks, c.id ∈ ["a.py", "b.py"] ∧
      (standard.estimate c.content).toNat ≤ 4 ∧ headerCost standard c ≤ 4 := by
    intro c hc
    obtain ⟨d, hd, rfl⟩ := eq_boosted_of_mem_offers (Budget.mem_packed_pack hc)
    rw [← Except.ok.inj (Analyzer.build_samplePair.symm.trans hs)] at hd
    obtain ⟨f, hf, hown⟩ :=
      Analyzer.exists_of_mem_chunks_snapshotOf (Catalog.mem_toList_of_get? hd)
    have hid : d.id = f.path := congrArg Chunk.id hown
    have hcontent : d.content = f.content := congrArg Chunk.content hown
    have hpath : d.filePath = f.path := congrArg Chunk.filePath hown
    show d.id ∈ _ ∧ (standard.estimate d.content).toNat ≤ 4 ∧
      (standard.estimate ("// File: " ++ d.filePath ++ "\n" ++ "" ++ "\n\n")).toNat ≤ 4
    rw [hid, hcontent, hpath]
    rcases List.mem_pair.mp hf with rfl | rfl <;> decide
  have hids : (r.run s).chunks.map (·.id) ⊆ ["a.py", "b.py"] := by
    intro id hid
    obtain ⟨c, hc, rfl⟩ := List.mem_map.mp hid
    exact (hchunk c hc).1
  have hlength := ((r.sound_spent ∅ [] s).nodup_ids.subperm hids).length_le
  rw [Budget.ids, List.length_map] at hlength
  have htotal := totalTokens_eq hs r ∅ []
  rw [show Analyzer.pythonAnalyzer.estimator = standard from ofRatio_standard] at htotal
  exact ⟨htotal.le.trans (sum_map_le hlength fun c hc => (hchunk c hc).2.1),
    sum_map_le hlength fun c hc => (hchunk c hc).2.2⟩

/-- Sixteen tokens are enough for both modules and their headers, so all that is selected is
assembled. -/
theorem assemble_selected_samplePair : ∃ s,
    Analyzer.pythonAnalyzer.build ⟨"/repo", .directory {} Analyzer.samplePair⟩ = .ok s ∧
      ((sampleRequest 16).run s).chunks ≠ [] ∧
      (16 : UInt32).toNat < ceiling ∧ Analyzer.pythonAnalyzer.estimator = standard ∧
      (((sampleRequest 16).run s).chunks.map (headerCost Analyzer.pythonAnalyzer.estimator)).sum ≤
        ((sampleRequest 16).run s).remainingTokens.toNat ∧
      assemble? Analyzer.pythonAnalyzer.estimator 16 ((sampleRequest 16).run s).chunks =
        some (textOf ((sampleRequest 16).run s).chunks) := by
  obtain ⟨s, c, rest, hs, hchunks, -⟩ := first_samplePair 16 (by decide)
  have hlt : (16 : UInt32).toNat < ceiling := by decide
  have hstandard : Analyzer.pythonAnalyzer.estimator = standard := ofRatio_standard
  obtain ⟨htotal, hheaders⟩ := spent_samplePair hs (sampleRequest 16)
  have hbalance : ((sampleRequest 16).run s).totalTokens.toNat +
      ((sampleRequest 16).run s).remainingTokens.toNat = 16 :=
    totalTokens_add_remainingTokens (sampleRequest 16) ∅ []
  have henough : (((sampleRequest 16).run s).chunks.map (headerCost standard)).sum ≤
      ((sampleRequest 16).run s).remainingTokens.toNat := by
    omega
  rw [← hstandard] at henough
  obtain ⟨text, htext, -, -, hwhole⟩ :=
    assemble_selected hs (sampleRequest 16) ∅ [] rfl (.inl hlt)
  obtain rfl := (hwhole hstandard).2 henough
  exact ⟨s, hs, by simp [hchunks], hlt, hstandard, henough, htext⟩

end SelectionRequest
end Dossier
