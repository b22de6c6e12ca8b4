import Dossier.Proofs.Glob.Below
import Dossier.Proofs.Path

/-!
# A segment anywhere in a path

`**/`, a name and `/**` make a glob that looks for the name among the segments of a path, at any
depth. What may stand before the name are whole segments (`mem_anyDirs_segments`), and so it is
behind the name (`mem_below_segments`): the name is never found inside a longer one. But any text is
any text within a line, so the other segments must not break it. **`accepts_segment`** says both.
-/

set_option autoImplicit false

namespace Dossier.Glob

open Dossier.Path

/-- The glob for all paths with a segment of this name. -/
def forSegment (name : String) : String := "**/" ++ name ++ "/**"

/-! ## Before and behind a segment -/

/-- That no segment has a separator in it, and none a line break. -/
def OnOneLine (segs : List String) : Prop := ∀ s ∈ segs, '/' ∉ s.toList ∧ '\n' ∉ s.toList

/-- What segments put before the next one. -/
def leading (front : List String) : String := if front = [] then "" else "/".intercalate front ++ "/"

/-- What segments put behind the last one. -/
def trailing (back : List String) : String := if back = [] then "" else "/" ++ "/".intercalate back

theorem intercalate_around (front : List String) (name : String) (back : List String) :
    "/".intercalate (front ++ name :: back) = leading front ++ name ++ trailing back := by
  have hback : "/".intercalate (name :: back) = name ++ trailing back := by
    unfold trailing
    split
    · next h => rw [h, String.intercalate_singleton, String.append_empty]
    · next h => rw [String.intercalate_cons_of_ne_nil h, String.append_assoc]
  unfold leading
  split
  · next h => rw [h, List.nil_append, hback, String.empty_append]
  · next h =>
    rw [String.intercalate_append_of_ne_nil h (List.cons_ne_nil _ _), hback, ← String.append_assoc]

theorem newline_notMem_intercalate {segs : List String} :
    '\n' ∉ ("/".intercalate segs).toList ↔ ∀ s ∈ segs, '\n' ∉ s.toList := by
  induction segs with
  | nil => simp
  | cons s segs ih =>
    by_cases hne : segs = []
    · simp [hne]
    · rw [String.intercalate_cons_of_ne_nil hne, List.forall_mem_cons, ← ih]
      simp

theorem exists_segments {line : List Char} (h : '\n' ∉ line) :
    ∃ segs, segs ≠ [] ∧ OnOneLine segs ∧ "/".intercalate segs = String.ofList line := by
  have hjoin := intercalate_segments (String.ofList line)
  have hline : '\n' ∉ ("/".intercalate (segments (String.ofList line))).toList := by
    rwa [hjoin, String.toList_ofList]
  rw [newline_notMem_intercalate] at hline
  exact ⟨_, segments_ne_nil _, fun s hs => ⟨slash_notMem_of_mem_segments hs, hline s hs⟩, hjoin⟩

theorem OnOneLine.newline_notMem {segs : List String} (h : OnOneLine segs) :
    '\n' ∉ ("/".intercalate segs).toList :=
  newline_notMem_intercalate.mpr fun s hs => (h s hs).2

/-- **Directories are whole segments.** -/
theorem mem_anyDirs_segments {text : String} : text.toList ∈ GlobPart.anyDirs.language ↔
    ∃ front, OnOneLine front ∧ text = leading front := by
  rw [mem_anyDirs]
  constructor
  · rintro (hnil | ⟨dirs, hline, htext⟩)
    · exact ⟨[], by simp [OnOneLine], String.toList_injective hnil⟩
    · obtain ⟨front, hne, hfront, hjoin⟩ := exists_segments hline
      refine ⟨front, hfront, ?_⟩
      rw [leading, if_neg hne, hjoin, ← String.toList_inj, htext]
      simp
  · rintro ⟨front, hfront, rfl⟩
    unfold leading
    split
    · exact .inl rfl
    · exact .inr ⟨_, hfront.newline_notMem, by simp⟩

theorem mem_below_segments {text : String} : text.toList ∈ GlobPart.below.language ↔
    ∃ back, OnOneLine back ∧ text = trailing back := by
  rw [mem_below]
  constructor
  · rintro (hnil | ⟨rest, hline, htext⟩)
    · exact ⟨[], by simp [OnOneLine], String.toList_injective hnil⟩
    · obtain ⟨back, hne, hback, hjoin⟩ := exists_segments hline
      refine ⟨back, hback, ?_⟩
      rw [trailing, if_neg hne, hjoin, ← String.toList_inj, htext]
      simp
  · rintro ⟨back, hback, rfl⟩
    unfold trailing
    split
    · exact .inl rfl
    · exact .inr ⟨_, hback.newline_notMem, by simp⟩

/-! ## The glob for a segment -/

theorem accepts_forSegment {name : String} (hname : IsLiteral name) (path : String) :
    (ofString (forSegment name)).accepts path = true ↔
      ∃ front back, OnOneLine front ∧ OnOneLine back ∧
        path = "/".intercalate (front ++ name :: back) := by
  obtain ⟨b, i, hread⟩ := readParts_literal hname true true [.anyDirs] ['/', '*', '*']
  have hparts : (ofString (forSegment name)).parts =
      (.below :: (name.toList.reverse.map GlobPart.literal ++ [.anyDirs])).reverse := by
    have htext : (forSegment name).toList =
        '*' :: '*' :: '/' :: (name.toList ++ ['/', '*', '*']) := by
      simp [forSegment]
    rw [ofString, htext, readParts_dirs, hread, readParts_below]
  have hdirs : built [.anyDirs] = GlobPart.anyDirs.language := by simp [built]
  rw [mem_built hparts, built_cons, Language.mem_mul]
  constructor
  · rintro ⟨_, hbefore, trail, htrail, hpath⟩
    obtain ⟨lead, hlead, rfl⟩ := mem_built_literal.mp hbefore
    rw [hdirs, ← String.toList_ofList (l := lead), mem_anyDirs_segments] at hlead
    rw [← String.toList_ofList (l := trail), mem_below_segments] at htrail
    obtain ⟨front, hfront, hlead⟩ := hlead
    obtain ⟨back, hback, htrail⟩ := htrail
    refine ⟨front, back, hfront, hback, ?_⟩
    rw [intercalate_around, ← hlead, ← htrail, ← String.toList_inj, ← hpath]
    simp
  · rintro ⟨front, back, hfront, hback, rfl⟩
    refine ⟨_, mem_built_literal.mpr ⟨(leading front).toList, ?_, rfl⟩, (trailing back).toList,
      mem_below_segments.mpr ⟨back, hback, rfl⟩, ?_⟩
    · rw [hdirs]
      exact mem_anyDirs_segments.mpr ⟨front, hfront, rfl⟩
    · rw [intercalate_around, String.toList_append, String.toList_append]

theorem accepts_forSegment_intercalate {name : String} (hname : IsName name)
    (hliteral : IsLiteral name) {segs : List String} (hsegs : ∀ s ∈ segs, IsName s) :
    (ofString (forSegment name)).accepts ("/".intercalate segs) = true ↔
      ∃ front back, segs = front ++ name :: back ∧ ∀ s ∈ front ++ back, '\n' ∉ s.toList := by
  rw [accepts_forSegment hliteral]
  constructor
  · rintro ⟨front, back, hfront, hback, hpath⟩
    have hparts : ∀ s ∈ front ++ name :: back, '/' ∉ s.toList := by
      simp only [List.forall_mem_append, List.forall_mem_cons]
      exact ⟨fun s hs => (hfront s hs).1, hname.2, fun s hs => (hback s hs).1⟩
    have hsegments : segments ("/".intercalate segs) = front ++ name :: back := by
      rw [hpath, segments_intercalate_of_notMem hparts (by simp)]
    refine ⟨front, back, ?_, ?_⟩
    · rw [← hsegments, segments_intercalate hsegs]
      -- The empty path has one segment, and it is empty.
      rintro rfl
      have hmem : name ∈ segments ("/".intercalate []) := by
        rw [hsegments]
        simp
      exact hname.1 (by simpa [segments] using hmem)
    · rw [List.forall_mem_append]
      exact ⟨fun s hs => (hfront s hs).2, fun s hs => (hback s hs).2⟩
  · rintro ⟨front, back, rfl, hline⟩
    have hone : ∀ part, (∀ s ∈ part, s ∈ front ++ back) → OnOneLine part := by
      intro part hpart s hs
      refine ⟨(hsegs s ?_).2, hline s (hpart s hs)⟩
      have hmem := hpart s hs
      rw [List.mem_append] at hmem
      rw [List.mem_append, List.mem_cons]
      exact hmem.imp_right .inr
    exact ⟨front, back, hone front fun _ => List.mem_append_left back,
      hone back fun _ => List.mem_append_right front, rfl⟩

/-- **The glob for a name accepts the paths with a segment of this name**, as long as no line breaks
in the other segments. -/
theorem accepts_segment {name : String} (hname : IsName name) (hliteral : IsLiteral name)
    {segs : List String} (hsegs : ∀ s ∈ segs, IsName s) :
    ((ofString (forSegment name)).accepts ("/".intercalate segs) = true ↔
      ∃ front back, segs = front ++ name :: back ∧ ∀ s ∈ front ++ back, '\n' ∉ s.toList) ∧
    ((∀ s ∈ segs, '\n' ∉ s.toList) →
      ((ofString (forSegment name)).accepts ("/".intercalate segs) = true ↔ name ∈ segs)) := by
  have hexact := accepts_forSegment_intercalate hname hliteral hsegs
  refine ⟨hexact, fun hline => hexact.trans ?_⟩
  constructor
  · rintro ⟨front, back, rfl, -⟩
    exact List.mem_append_right front List.mem_cons_self
  · intro hmem
    obtain ⟨front, back, rfl⟩ := List.append_of_mem hmem
    simp only [List.forall_mem_append, List.forall_mem_cons] at hline
    exact ⟨front, back, rfl, List.forall_mem_append.mpr ⟨hline.1, hline.2.2⟩⟩

/-- Signs of regular expressions are only characters here, and a longer segment is another one. -/
theorem accepts_segment_sampleName : IsName "a.+b" ∧ IsLiteral "a.+b" ∧
    (∀ s ∈ ["x", "a.+b", "y"], IsName s) ∧ (∀ s ∈ ["x", "a.+b.c"], IsName s) ∧
    (ofString (forSegment "a.+b")).accepts "x/a.+b/y" = true ∧
    ¬ (ofString (forSegment "a.+b")).accepts "x/a.+b.c" = true := by
  have hname : IsName "a.+b" := by decide
  have hliteral : IsLiteral "a.+b" := by decide
  have hfound : ∀ s ∈ ["x", "a.+b", "y"], IsName s := by decide
  have hlonger : ∀ s ∈ ["x", "a.+b.c"], IsName s := by decide
  refine ⟨hname, hliteral, hfound, hlonger, ?_, fun h => ?_⟩
  · exact ((accepts_segment hname hliteral hfound).2 (by decide)).mpr (by decide)
  · exact absurd (((accepts_segment hname hliteral hlonger).2 (by decide)).mp h) (by decide)

/-- A line break in another segment hides the one that is looked for. -/
theorem not_every_segment_found : ¬ ∀ name, IsName name → IsLiteral name → ∀ segs : List String,
    (∀ s ∈ segs, IsName s) →
      ((ofString (forSegment name)).accepts ("/".intercalate segs) = true ↔ name ∈ segs) := by
  intro h
  have hname : IsName "vendor" := by decide
  have hliteral : IsLiteral "vendor" := by decide
  have hsegs : ∀ s ∈ ["a\nb", "vendor"], IsName s := by decide
  have hfound := (h "vendor" hname hliteral _ hsegs).mpr (by decide)
  rw [accepts_forSegment_intercalate hname hliteral hsegs] at hfound
  obtain ⟨front, back, hsplit, hline⟩ := hfound
  -- The segment with the line break is not the one looked for, so it stands before or behind it.
  have hbroken : "a\nb" ∈ front ++ "vendor" :: back := by
    rw [← hsplit]
    decide
  have hother : "a\nb" ∈ front ++ back := by
    rw [List.mem_append, List.mem_cons] at hbroken
    rw [List.mem_append]
    exact hbroken.imp_right fun hmem => hmem.resolve_left (by decide)
  exact absurd (hline _ hother) (by decide)

end Dossier.Glob
