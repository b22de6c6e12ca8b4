import Dossier.Proofs.Path
import Mathlib

/-!
# Walking along segments

A relative specifier is followed segment by segment, by its text alone: nobody asks what is there.
`Walk` is this as a relation between directories, given by their names. A walk fails in one way, by
leaving the root upwards (`Climbs`): at some point it has gone up more often than down, counted from
the root. `resolve?` does this walk and gives up on two things, what leaves the root and the root
itself (`resolve?_eq_none`).
-/

set_option autoImplicit false

namespace Dossier.Path

/-- A segment that names something: neither empty nor one or two points. -/
def IsOrdinary (segment : String) : Prop := IsName segment ∧ segment ≠ "." ∧ segment ≠ ".."

instance (segment : String) : Decidable (IsOrdinary segment) :=
  inferInstanceAs (Decidable (_ ∧ _))

/-- A path all of whose segments name something. -/
def IsPlain (path : String) : Prop := ∀ segment ∈ segments path, IsOrdinary segment

instance (path : String) : Decidable (IsPlain path) :=
  inferInstanceAs (Decidable (∀ segment ∈ segments path, IsOrdinary segment))

/-- The names along the path of a directory. -/
def names (dir : String) : List String := (segments dir).filter (· != "")

/-- `Walk dir segs dest`: the segments lead from one directory to the other. -/
inductive Walk : List String → List String → List String → Prop where
  | done (dir : List String) : Walk dir [] dir
  | stay {dir rest dest : List String} {segment : String} (hstay : segment = "" ∨ segment = ".")
      (h : Walk dir rest dest) : Walk dir (segment :: rest) dest
  | up {dir rest dest : List String} (name : String) (h : Walk dir rest dest) :
      Walk (dir ++ [name]) (".." :: rest) dest
  | down {dir rest dest : List String} {segment : String} (hne : segment ≠ "")
      (hpoint : segment ≠ ".") (hpoints : segment ≠ "..") (h : Walk (dir ++ [segment]) rest dest) :
      Walk dir (segment :: rest) dest

/-- The levels that a segment goes down. -/
def descent (segment : String) : Int :=
  if segment = "" ∨ segment = "." then 0 else if segment = ".." then -1 else 1

/-- That the segments lead above the root at some point on their way from a directory. -/
def Climbs (dir segs : List String) : Prop :=
  ∃ front, front <+: segs ∧ dir.length + (front.map descent).sum < 0

/-- Segments that lead back to where they start. -/
inductive Detour : List String → Prop where
  | empty : Detour [""]
  | here : Detour ["."]
  | back {name : String} (hname : IsOrdinary name) : Detour [name, ".."]

theorem isPlain_intercalate {parts : List String} (hne : parts ≠ [])
    (h : ∀ part ∈ parts, IsOrdinary part) : IsPlain ("/".intercalate parts) := by
  unfold IsPlain
  rwa [segments_intercalate_of_notMem (fun part hpart => (h part hpart).1.2) hne]

theorem isPlain_concat {dirs : List String} (hdirs : ∀ dir ∈ dirs, IsOrdinary dir) {name : String}
    (hname : IsOrdinary name) : IsPlain ("/".intercalate (dirs ++ [name])) := by
  refine isPlain_intercalate (by simp) fun part hpart => ?_
  rcases List.mem_append.mp hpart with hpart | hpart
  · exact hdirs part hpart
  · rwa [List.mem_singleton.mp hpart]

theorem isName_of_mem_names {dir name : String} (h : name ∈ names dir) : IsName name := by
  obtain ⟨hmem, hne⟩ := List.mem_filter.mp h
  exact ⟨bne_iff_ne.mp hne, slash_notMem_of_mem_segments hmem⟩

/-- Above a plain path there are the names of its segments, without the last. -/
theorem names_directoryOf {path : String} (h : IsPlain path) :
    names (directoryOf path) = (segments path).dropLast := by
  have hmem : ∀ name ∈ (segments path).dropLast, IsOrdinary name :=
    fun name hname => h name (List.dropLast_subset _ hname)
  rw [directoryOf_eq]
  by_cases hne : (segments path).dropLast = []
  · rw [hne]
    rfl
  · unfold names
    rw [segments_intercalate_of_notMem (fun name hname => (hmem name hname).1.2) hne]
    exact List.filter_eq_self.mpr fun name hname => bne_iff_ne.mpr (hmem name hname).1.1

/-! ## Single segments -/

theorem follow_stay {dir : List String} {segment : String} (h : segment = "" ∨ segment = ".") :
    follow dir segment = some dir := if_pos h

theorem follow_up (dir : List String) (name : String) : follow (name :: dir) ".." = some dir := rfl

theorem follow_down {dir : List String} {segment : String} (hne : segment ≠ "")
    (hpoint : segment ≠ ".") (hpoints : segment ≠ "..") :
    follow dir segment = some (segment :: dir) := by
  unfold follow
  rw [if_neg (by simp [hne, hpoint]), if_neg hpoints]

theorem climbs_congr {dir other segs : List String} (h : dir.length = other.length) :
    Climbs dir segs ↔ Climbs other segs := by
  unfold Climbs
  rw [h]

/-- After its first segment a walk climbs from the level to which that segment leads. -/
theorem climbs_cons {dir rest : List String} {segment : String} :
    Climbs dir (segment :: rest) ↔
      ∃ front, front <+: rest ∧ dir.length + descent segment + (front.map descent).sum < 0 := by
  constructor
  · rintro ⟨front, hfront, hlow⟩
    cases front with
    | nil =>
      rw [List.map_nil, List.sum_nil] at hlow
      omega
    | cons first front =>
      obtain ⟨rfl, hrest⟩ := List.cons_prefix_cons.mp hfront
      refine ⟨front, hrest, ?_⟩
      rw [List.map_cons, List.sum_cons] at hlow
      omega
  · rintro ⟨front, hfront, hlow⟩
    refine ⟨segment :: front, List.cons_prefix_cons.mpr ⟨rfl, hfront⟩, ?_⟩
    rw [List.map_cons, List.sum_cons]
    omega

/-! ## Whole walks -/

theorem walk_iff {dir segs dest : List String} :
    Walk dir segs dest ↔ segs.foldlM follow dir.reverse = some dest.reverse := by
  -- The names of a directory are kept last first, so `follow` goes up by dropping the head.
  constructor
  · intro h
    induction h with
    | done dir => rfl
    | stay hstay _ ih =>
      rw [List.foldlM_cons, follow_stay hstay]
      exact ih
    | up name _ ih =>
      rw [List.foldlM_cons, List.reverse_concat, follow_up]
      exact ih
    | down hne hpoint hpoints _ ih =>
      rw [List.reverse_concat] at ih
      rw [List.foldlM_cons, follow_down hne hpoint hpoints]
      exact ih
  · intro h
    induction segs generalizing dir with
    | nil =>
      obtain rfl : dir = dest := List.reverse_injective (Option.some.inj h)
      exact .done dir
    | cons segment rest ih =>
      rw [List.foldlM_cons] at h
      by_cases hstay : segment = "" ∨ segment = "."
      · rw [follow_stay hstay] at h
        exact .stay hstay (ih h)
      · obtain ⟨hne, hpoint⟩ := not_or.mp hstay
        by_cases hpoints : segment = ".."
        · subst hpoints
          rcases List.eq_nil_or_concat' dir with rfl | ⟨up, name, rfl⟩
          · cases h
          · rw [List.reverse_concat, follow_up] at h
            exact .up name (ih h)
        · rw [follow_down hne hpoint hpoints, ← List.reverse_concat] at h
          exact .down hne hpoint hpoints (ih h)

/-- The walk from a directory fails when it climbs, and in no other way. -/
theorem foldlM_follow_eq_none {dir segs : List String} :
    segs.foldlM follow dir = none ↔ Climbs dir segs := by
  induction segs generalizing dir with
  | nil =>
    refine ⟨fun h => (Option.some_ne_none _ h).elim, ?_⟩
    rintro ⟨front, hfront, hlow⟩
    rw [List.prefix_nil.mp hfront, List.map_nil, List.sum_nil] at hlow
    omega
  | cons segment rest ih =>
    rw [List.foldlM_cons, climbs_cons]
    by_cases hstay : segment = "" ∨ segment = "."
    · have hlevel : descent segment = 0 := if_pos hstay
      rw [follow_stay hstay, hlevel, Int.add_zero]
      exact ih
    · obtain ⟨hne, hpoint⟩ := not_or.mp hstay
      by_cases hpoints : segment = ".."
      · subst hpoints
        have hlevel : descent ".." = -1 := rfl
        rw [hlevel]
        cases dir with
        | nil =>
          -- One level above the root is low enough.
          exact iff_of_true rfl ⟨[], List.nil_prefix, by simp⟩
        | cons name up =>
          have hlength : ((name :: up).length : Int) + -1 = up.length := by
            rw [List.length_cons]
            omega
          rw [follow_up, hlength]
          exact ih
      · have hlevel : descent segment = 1 := by
          unfold descent
          rw [if_neg hstay, if_neg hpoints]
        have hlength : (dir.length : Int) + 1 = (segment :: dir).length := by simp
        rw [follow_down hne hpoint hpoints, hlevel, hlength]
        exact ih

/-- Whatever holds of the names of the directory and of the segments holds of where they lead. -/
theorem Walk.forall_mem {P : String → Prop} {dir segs dest : List String} (h : Walk dir segs dest)
    (hdir : ∀ name ∈ dir, P name)
    (hsegs : ∀ segment ∈ segs, segment ≠ "" → segment ≠ "." → segment ≠ ".." → P segment) :
    ∀ name ∈ dest, P name := by
  induction h with
  | done dir => exact hdir
  | stay _ _ ih => exact ih hdir fun s hs => hsegs s (List.mem_cons_of_mem _ hs)
  | up name _ ih =>
    exact ih (fun n hn => hdir n (List.mem_append_left _ hn))
      fun s hs => hsegs s (List.mem_cons_of_mem _ hs)
  | down hne hpoint hpoints _ ih =>
    refine ih (fun n hn => ?_) fun s hs => hsegs s (List.mem_cons_of_mem _ hs)
    rcases List.mem_append.mp hn with hn | hn
    · exact hdir n hn
    · obtain rfl := List.mem_singleton.mp hn
      exact hsegs _ (List.mem_cons_self ..) hne hpoint hpoints

theorem Detour.foldlM_follow {segs : List String} (h : Detour segs) (dir : List String) :
    segs.foldlM follow dir = some dir := by
  cases h with
  | empty => rfl
  | here => rfl
  | back hname =>
    obtain ⟨⟨hne, -⟩, hpoint, hpoints⟩ := hname
    rw [List.foldlM_cons, follow_down hne hpoint hpoints]
    rfl

theorem Detour.slash_notMem {segs : List String} (h : Detour segs) :
    ∀ segment ∈ segs, '/' ∉ segment.toList := by
  cases h with
  | empty => simp
  | here => simp
  | back hname => simp [hname.1.2]

/-! ## Specifiers -/

theorem resolve?_eq_some {dir specifier target : String} :
    resolve? dir specifier = some target ↔ ∃ dest, dest ≠ [] ∧
      Walk (names dir) (segments specifier) dest ∧ target = "/".intercalate dest := by
  have hwalk : ∀ dest, Walk (names dir) (segments specifier) dest ↔
      (segments specifier).foldlM follow ((segments dir).filter (· != "")).reverse =
        some dest.reverse := fun _ => walk_iff
  unfold resolve?
  dsimp only
  constructor
  · intro h
    split at h
    · cases h
    · cases h
    · next last up hfold =>
      cases h
      refine ⟨(last :: up).reverse, by simp, (hwalk _).mpr ?_, rfl⟩
      rw [hfold, List.reverse_reverse]
  · rintro ⟨dest, hne, h, rfl⟩
    obtain ⟨up, last, rfl⟩ := (List.eq_nil_or_concat' dest).resolve_left hne
    rw [(hwalk _).mp h, List.reverse_concat]
    simp

/-- **Nothing is found above the root, and nothing at the root itself.** -/
theorem resolve?_eq_none {dir specifier : String} :
    resolve? dir specifier = none ↔
      Climbs (names dir) (segments specifier) ∨ Walk (names dir) (segments specifier) [] := by
  have hclimbs : Climbs (names dir) (segments specifier) ↔
      (segments specifier).foldlM follow ((segments dir).filter (· != "")).reverse = none := by
    rw [foldlM_follow_eq_none]
    exact climbs_congr List.length_reverse.symm
  have hwalk : Walk (names dir) (segments specifier) [] ↔
      (segments specifier).foldlM follow ((segments dir).filter (· != "")).reverse = some [] :=
    walk_iff
  rw [hclimbs, hwalk]
  unfold resolve?
  dsimp only
  split
  · next h => simp [h]
  · next h => simp [h]
  · next h => simp [h]

theorem resolve?_detour {dir : String} {front segs back : List String} (h : Detour segs)
    (hfront : front ≠ []) (hslash : ∀ segment ∈ front ++ back, '/' ∉ segment.toList) :
    resolve? dir ("/".intercalate (front ++ segs ++ back)) =
      resolve? dir ("/".intercalate (front ++ back)) := by
  have hall : ∀ segment ∈ front ++ segs ++ back, '/' ∉ segment.toList := by
    intro segment hsegment
    simp only [List.mem_append] at hsegment hslash
    rcases hsegment with (hs | hs) | hs
    · exact hslash segment (.inl hs)
    · exact h.slash_notMem segment hs
    · exact hslash segment (.inr hs)
  have hfold : ∀ start, (front ++ segs ++ back).foldlM follow start =
      (front ++ back).foldlM follow start := by
    intro start
    rw [List.foldlM_append, List.foldlM_append, List.foldlM_append]
    cases front.foldlM follow start with
    | none => rfl
    | some there => exact congrArg (· >>= (back.foldlM follow ·)) (h.foldlM_follow there)
  unfold resolve?
  dsimp only
  rw [segments_intercalate_of_notMem hall (by simp [hfront]),
    segments_intercalate_of_notMem hslash (by simp [hfront]), hfold]

end Dossier.Path
