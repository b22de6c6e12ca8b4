import Dossier.Glob
import Dossier.Proofs.Pattern.Text

/-!
# Globs mean what they say

A glob is read into parts, and what was read already may be changed again at the end. `Reads` is the
direct reading instead: clause by clause from left to right, what each sign of the glob consumes.
The parts have languages, both as patterns and as texts of regular expressions, and their product is
what the glob accepts. **`ofString_exact`** says that the emitted text is always a regular
expression for this language, and that it is the language of the direct reading.
-/

set_option autoImplicit false

namespace Dossier

open Pattern
open scoped Computability

/-! ## Parts -/

namespace GlobPart

/-- The texts that a part consumes. -/
def language : GlobPart → TextLanguage
  | .literal c => oneChar (· = c)
  | .anyChar => oneChar (· ≠ '/')
  | .anyRun => allChars (· ≠ '/')
  | .anyText => allChars (· ≠ '\n')
  | .anyDirs => 1 + allChars (· ≠ '\n') * oneChar (· = '/')
  | .below => 1 + oneChar (· = '/') * allChars (· ≠ '\n')

theorem hasLanguage_pattern (part : GlobPart) : HasLanguage part.pattern part.language := by
  have honly : ∀ c : Char, HasLanguage (.one (.only c)) (oneChar (· = c)) := fun c =>
    hasLanguage_one fun x => by simp [CharSet.has]
  have hsegment : ∀ x, inSegment.has x = true ↔ x ≠ '/' := fun x => by
    simp [inSegment, CharSet.has]
  have hline : HasLanguage (.run .inLine false) (allChars (· ≠ '\n')) :=
    hasLanguage_run fun x => by simp [CharSet.has]
  cases part with
  | literal c => exact honly c
  | anyChar => exact hasLanguage_one hsegment
  | anyRun => exact hasLanguage_run hsegment
  | anyText => exact hline
  | anyDirs => exact (hline.seq (honly '/')).opt
  | below => exact ((honly '/').seq hline).opt

theorem denotes_source (part : GlobPart) : Denotes .factor part.pattern.source part.language := by
  have hslash : Denotes .factor ['/'] (oneChar (· = '/')) := .once (.plain (by decide))
  have hline : Denotes .factor ['.', '*'] (allChars (· ≠ '\n')) := denotes_star .dot
  have hsegment : Denotes .atom ['[', '^', '/', ']'] (oneChar (· ≠ '/')) := .negated (by decide)
  -- Two factors in a group, which may be left out.
  have hgroup : ∀ {cs ds : List Char} {L M : TextLanguage}, Denotes .factor cs L →
      Denotes .factor ds M → Denotes .factor (grouped (cs ++ ds) ++ ['?']) (1 + L * M) := by
    intro cs ds L M hcs hds
    have hterm := Denotes.cons hcs (Denotes.cons hds .nil)
    rw [List.append_nil, mul_one] at hterm
    exact .optional (.grouped hterm)
  cases part with
  | literal c => exact .once (denotes_escapeChar c)
  | anyChar => exact .once hsegment
  | anyRun => exact denotes_star hsegment
  | anyText => exact hline
  | anyDirs => exact hgroup hline hslash
  | below => exact hgroup hslash hline

end GlobPart

namespace Glob

/-- What the parts of a glob consume one after another. -/
def language (g : Glob) : TextLanguage := (g.parts.map GlobPart.language).prod

theorem accepts_iff (g : Glob) (path : String) : g.accepts path = true ↔ path.toList ∈ g.language :=
  (hasLanguage_sequence GlobPart.hasLanguage_pattern g.parts).matchesWhole_iff path

/-- The emitted text is a regular expression for what the glob accepts. -/
theorem anchored_regexText (g : Glob) : Anchored g.regexText g.language :=
  ⟨g.pattern.source, String.toList_ofList, denotes_sequence GlobPart.denotes_source g.parts⟩

/-! ## The direct reading -/

/--
What a glob says of a path, read from left to right, one clause for each thing that can come next.
The flag tells whether a segment starts here: at the start of the glob, and after a `/`.
-/
inductive Reads : Bool → List Char → List Char → Prop where
  | done {b : Bool} : Reads b [] []
  /-- A double star for leading directories: there are none. -/
  | noDirs {rest path : List Char} (h : Reads true rest path) :
      Reads true ('*' :: '*' :: '/' :: rest) path
  /-- There are some. -/
  | dirs {rest path : List Char} (text : List Char) (h : Reads true rest path) :
      Reads true ('*' :: '*' :: '/' :: rest) (text ++ '/' :: path)
  /-- A final double star after a `/`: the directory itself. -/
  | itself {b : Bool} : Reads b ['/', '*', '*'] []
  /-- Something below it. -/
  | inside {b : Bool} (text : List Char) : Reads b ['/', '*', '*'] ('/' :: text)
  /-- Every other double star. -/
  | anyText {b : Bool} {rest path : List Char} (text : List Char)
      (hdirs : b = true → rest.head? ≠ some '/') (h : Reads false rest path) :
      Reads b ('*' :: '*' :: rest) (text ++ path)
  | anyRun {b : Bool} {rest path : List Char} (text : List Char) (htext : '/' ∉ text)
      (hstar : rest.head? ≠ some '*') (h : Reads false rest path) :
      Reads b ('*' :: rest) (text ++ path)
  | anyChar {b : Bool} {rest path : List Char} {x : Char} (hx : x ≠ '/')
      (h : Reads false rest path) : Reads b ('?' :: rest) (x :: path)
  | literal {b : Bool} {c : Char} {rest path : List Char} (hstar : c ≠ '*') (hmark : c ≠ '?')
      (hbelow : c :: rest ≠ ['/', '*', '*']) (h : Reads (c == '/') rest path) :
      Reads b (c :: rest) (c :: path)

/-- The final double star comes directly after a double star for leading directories. -/
def ClosesDirs (b : Bool) (text : List Char) : Prop :=
  ∃ front, text = front ++ ['*', '*', '/', '*', '*'] ∧
    (front = [] ∧ b = true ∨ ∃ before, front = before ++ ['/'])

/-- The paths that a glob reads, from a place in it. -/
def reading (b : Bool) (text : List Char) : TextLanguage := {path | Reads b text path}

variable {b i : Bool} {read : List GlobPart} {rest : List Char} {c : Char}

theorem mem_reading {path : List Char} : path ∈ reading b rest ↔ Reads b rest path := Iff.rfl

/-! ## Reading part by part -/

theorem readParts_dirs :
    readParts true i read ('*' :: '*' :: '/' :: rest) =
      readParts true true (.anyDirs :: read) rest := by
  rw [readParts]
  rfl

theorem readParts_char (hstar : c ≠ '*') (hmark : c ≠ '?') :
    readParts b i read (c :: rest) =
      readParts (c == '/') (c == '/') (.literal c :: read) rest := by
  rw [readParts] <;> simp_all

theorem readParts_mark :
    readParts b i read ('?' :: rest) = readParts false false (.anyChar :: read) rest := by
  rw [readParts]

theorem readParts_star (hstar : rest.head? ≠ some '*') :
    readParts b i read ('*' :: rest) = readParts false false (.anyRun :: read) rest := by
  rw [readParts] <;> (intros; simp_all)

theorem readParts_below : readParts b i read ['/', '*', '*'] = .below :: read := rfl

/-- A double star that is neither for leading directories nor after a final `/`. -/
theorem readParts_text (hdirs : b = true → rest.head? ≠ some '/') (hend : rest = [] → i = false) :
    readParts b i read ('*' :: '*' :: rest) = readParts false false (.anyText :: read) rest := by
  cases rest with
  | nil =>
    rw [hend rfl]
    rfl
  | cons c rest =>
    by_cases hc : c = '/'
    · subst hc
      have hb : b = false := by simpa using hdirs
      subst hb
      rw [readParts_char (c := '/') (by decide) (by decide), readParts]
      rfl
    · rw [readParts] <;> simp_all

/-! ## The clauses as languages -/

theorem reading_nil : reading b [] = 1 := by
  ext path
  rw [mem_reading, Language.mem_one]
  constructor
  · intro h
    generalize hrest : ([] : List Char) = rest at h
    cases h with
    | done => rfl
    | _ => cases hrest
  · rintro rfl
    exact .done

theorem reading_mark :
    reading b ('?' :: rest) = GlobPart.anyChar.language * reading false rest := by
  ext path
  rw [mem_reading, Language.mem_mul]
  constructor
  · intro h
    generalize htext : '?' :: rest = text at h
    cases h with
    | anyChar hx h =>
      obtain ⟨-, rfl⟩ := List.cons.inj htext
      exact ⟨[_], ⟨_, hx, rfl⟩, _, h, rfl⟩
    | literal _ hmark => exact absurd (List.cons.inj htext).1.symm hmark
    | _ => simp at htext
  · rintro ⟨_, ⟨x, hx, rfl⟩, path, h, rfl⟩
    exact .anyChar hx h

theorem reading_star (hstar : rest.head? ≠ some '*') :
    reading b ('*' :: rest) = GlobPart.anyRun.language * reading false rest := by
  ext path
  rw [mem_reading, Language.mem_mul]
  constructor
  · intro h
    generalize htext : '*' :: rest = text at h
    cases h with
    | anyRun text hslash _ h =>
      obtain ⟨-, rfl⟩ := List.cons.inj htext
      exact ⟨text, fun x hx hx' => hslash (hx' ▸ hx), _, h, rfl⟩
    | noDirs | dirs | anyText =>
      rw [(List.cons.inj htext).2] at hstar
      exact absurd rfl hstar
    | literal hc => exact absurd (List.cons.inj htext).1.symm hc
    | _ => simp at htext
  · rintro ⟨text, htext, path, h, rfl⟩
    exact .anyRun text (fun hslash => htext _ hslash rfl) hstar h

theorem reading_char (hstar : c ≠ '*') (hmark : c ≠ '?') (hbelow : c :: rest ≠ ['/', '*', '*']) :
    reading b (c :: rest) = (GlobPart.literal c).language * reading (c == '/') rest := by
  ext path
  rw [mem_reading, Language.mem_mul]
  constructor
  · intro h
    generalize htext : c :: rest = text at h
    cases h with
    | literal _ _ _ h =>
      obtain ⟨rfl, rfl⟩ := List.cons.inj htext
      exact ⟨[c], ⟨c, rfl, rfl⟩, _, h, rfl⟩
    | itself | inside => exact absurd htext hbelow
    | anyChar => exact absurd (List.cons.inj htext).1 hmark
    | noDirs | dirs | anyText | anyRun => exact absurd (List.cons.inj htext).1 hstar
    | done => cases htext
  · rintro ⟨_, ⟨x, rfl, rfl⟩, path, h, rfl⟩
    exact .literal hstar hmark hbelow h

/-! Where any text may stand, the patterns stop at line breaks. -/

/-- Two languages agree on the paths without a line break. -/
def Agree (L M : TextLanguage) : Prop := ∀ path : List Char, '\n' ∉ path → (path ∈ L ↔ path ∈ M)

theorem Agree.mul_left {L M : TextLanguage} (h : Agree L M) (N : TextLanguage) :
    Agree (N * L) (N * M) := by
  intro path hpath
  rw [Language.mem_mul, Language.mem_mul]
  refine exists_congr fun x => and_congr_right fun _ => exists_congr fun y => ?_
  constructor
  · rintro ⟨hy, rfl⟩
    exact ⟨(h y fun hn => hpath (List.mem_append_right x hn)).mp hy, rfl⟩
  · rintro ⟨hy, rfl⟩
    exact ⟨(h y fun hn => hpath (List.mem_append_right x hn)).mpr hy, rfl⟩

theorem mem_anyLine {path : List Char} : path ∈ allChars (· ≠ '\n') ↔ '\n' ∉ path :=
  ⟨fun h hn => h _ hn rfl, fun h _ hx hx' => h (hx' ▸ hx)⟩

theorem agree_text (hdirs : b = true → rest.head? ≠ some '/') :
    Agree (reading b ('*' :: '*' :: rest)) (GlobPart.anyText.language * reading false rest) := by
  intro path hpath
  rw [mem_reading, Language.mem_mul]
  constructor
  · intro h
    generalize htext : '*' :: '*' :: rest = text at h
    cases h with
    | anyText text _ h =>
      simp only [List.cons.injEq, true_and] at htext
      subst htext
      exact ⟨text, mem_anyLine.mpr fun hn => hpath (List.mem_append_left _ hn), _, h, rfl⟩
    | noDirs | dirs =>
      simp only [List.cons.injEq, true_and] at htext
      rw [htext] at hdirs
      exact absurd rfl (hdirs rfl)
    | anyRun _ _ hstar =>
      rw [← (List.cons.inj htext).2] at hstar
      exact absurd rfl hstar
    | literal hc => exact absurd (List.cons.inj htext).1.symm hc
    | _ => simp at htext
  · rintro ⟨text, -, path, h, rfl⟩
    exact .anyText text hdirs h

theorem mem_anyDirs {path : List Char} :
    path ∈ GlobPart.anyDirs.language ↔
      path = [] ∨ ∃ text, '\n' ∉ text ∧ path = text ++ ['/'] := by
  simp only [GlobPart.language, Language.mem_add, Language.mem_one, Language.mem_mul]
  refine or_congr_right ⟨?_, ?_⟩
  · rintro ⟨text, htext, _, ⟨x, rfl, rfl⟩, rfl⟩
    exact ⟨text, mem_anyLine.mp htext, rfl⟩
  · rintro ⟨text, htext, rfl⟩
    exact ⟨text, mem_anyLine.mpr htext, ['/'], ⟨'/', rfl, rfl⟩, rfl⟩

theorem mem_below {path : List Char} :
    path ∈ GlobPart.below.language ↔ path = [] ∨ ∃ text, '\n' ∉ text ∧ path = '/' :: text := by
  simp only [GlobPart.language, Language.mem_add, Language.mem_one, Language.mem_mul]
  refine or_congr_right ⟨?_, ?_⟩
  · rintro ⟨_, ⟨x, rfl, rfl⟩, text, htext, rfl⟩
    exact ⟨text, mem_anyLine.mp htext, rfl⟩
  · rintro ⟨text, htext, rfl⟩
    exact ⟨['/'], ⟨'/', rfl, rfl⟩, text, mem_anyLine.mpr htext, rfl⟩

theorem agree_dirs : Agree (reading true ('*' :: '*' :: '/' :: rest))
    (GlobPart.anyDirs.language * reading true rest) := by
  intro path hpath
  rw [mem_reading, Language.mem_mul]
  constructor
  · intro h
    generalize htext : '*' :: '*' :: '/' :: rest = text at h
    cases h with
    | noDirs h =>
      simp only [List.cons.injEq, true_and] at htext
      subst htext
      exact ⟨[], mem_anyDirs.mpr (.inl rfl), _, h, rfl⟩
    | dirs text h =>
      simp only [List.cons.injEq, true_and] at htext
      subst htext
      have hline : '\n' ∉ text := fun hn => hpath (List.mem_append_left _ hn)
      exact ⟨text ++ ['/'], mem_anyDirs.mpr (.inr ⟨text, hline, rfl⟩), _, h, by simp⟩
    | anyText _ hdirs =>
      simp only [List.cons.injEq, true_and] at htext
      rw [← htext] at hdirs
      exact absurd rfl (hdirs rfl)
    | anyRun _ _ hstar =>
      rw [← (List.cons.inj htext).2] at hstar
      exact absurd rfl hstar
    | literal hc => exact absurd (List.cons.inj htext).1.symm hc
    | _ => simp at htext
  · rintro ⟨front, hfront, path, h, rfl⟩
    rcases mem_anyDirs.mp hfront with rfl | ⟨text, -, rfl⟩
    · exact .noDirs h
    · rw [List.append_assoc, List.singleton_append]
      exact .dirs text h

theorem agree_below : Agree (reading b ['/', '*', '*']) GlobPart.below.language := by
  intro path hpath
  rw [mem_reading, mem_below]
  constructor
  · intro h
    generalize htext : ['/', '*', '*'] = text at h
    cases h with
    | itself => exact .inl rfl
    | inside text => exact .inr ⟨text, fun hn => hpath (List.mem_cons_of_mem _ hn), rfl⟩
    | literal _ _ hbelow => exact absurd htext.symm hbelow
    | _ => simp at htext
  · rintro (rfl | ⟨text, -, rfl⟩)
    · exact .itself
    · exact .inside text

/-! ## The two readings -/

/-- The language of the parts read so far, which are given last first. -/
def built (read : List GlobPart) : TextLanguage := (read.reverse.map GlobPart.language).prod

theorem built_cons (part : GlobPart) (read : List GlobPart) :
    built (part :: read) = built read * part.language := by
  simp [built]

theorem ClosesDirs.of_tail {b b' : Bool} {front rest : List Char} (hrest : ClosesDirs b' rest)
    (hfront : b' = true → ∃ before, front = before ++ ['/']) : ClosesDirs b (front ++ rest) := by
  obtain ⟨inner, rfl, hinner⟩ := hrest
  refine ⟨front ++ inner, by rw [List.append_assoc], .inr ?_⟩
  rcases hinner with ⟨rfl, hb⟩ | ⟨before, rfl⟩
  · rw [List.append_nil]
    exact hfront hb
  · exact ⟨front ++ before, by rw [List.append_assoc]⟩

/-- One part more: the parts and the direct reading go on together. -/
theorem agree_step {b' i' : Bool} {part : GlobPart} {text rest : List Char}
    (hparts : readParts b i read text = readParts b' i' (part :: read) rest)
    (hreads : Agree (reading b text) (part.language * reading b' rest))
    (hrest : Agree (built (readParts b' i' (part :: read) rest))
      (built (part :: read) * reading b' rest)) :
    Agree (built (readParts b i read text)) (built read * reading b text) := by
  intro path hpath
  rw [hparts, hrest path hpath, built_cons, mul_assoc]
  exact (hreads.mul_left (built read) path hpath).symm

theorem agree_of_eq {L M : TextLanguage} (h : L = M) : Agree L M := fun _ _ => by rw [h]

/--
The parts of the rest of a glob say what the direct reading says. A final double star after a `/` is
read together with the `/`, so it is never met on its own.
-/
theorem agree_readParts (rest : List Char) (b i : Bool) (read : List GlobPart)
    (hclosed : ¬ ClosesDirs b rest) (hend : rest = ['*', '*'] → i = false) :
    Agree (built (readParts b i read rest)) (built read * reading b rest) := by
  induction hlength : rest.length using Nat.strong_induction_on generalizing rest b i read with
  | _ n ih =>
    subst hlength
    -- What is left to the induction after `front`, at most after a `/` in a new segment.
    have hnext : ∀ (front : List Char) {rest' : List Char} (b' i' : Bool) (read' : List GlobPart),
        rest = front ++ rest' → front ≠ [] → (b' = true → ∃ before, front = before ++ ['/']) →
        (rest' = ['*', '*'] → i' = false) →
        Agree (built (readParts b' i' read' rest')) (built read' * reading b' rest') := by
      rintro front rest' b' i' read' rfl hfront hslash hend'
      refine ih rest'.length ?_ rest' b' i' read' (fun h => hclosed (h.of_tail hslash)) hend' rfl
      rw [List.length_append]
      exact Nat.lt_add_of_pos_left (List.length_pos_iff.mpr hfront)
    rcases rest with _ | ⟨c, rest⟩
    · rw [reading_nil, mul_one]
      exact agree_of_eq rfl
    by_cases hstar : c = '*'
    · subst hstar
      by_cases hsecond : rest.head? = some '*'
      · obtain ⟨rest, rfl⟩ := List.head?_eq_some_iff.mp hsecond
        by_cases hdirs : b = true → rest.head? ≠ some '/'
        · exact agree_step (readParts_text hdirs fun h => hend (by rw [h])) (agree_text hdirs)
            (hnext ['*', '*'] false false _ rfl (by simp) (by simp) (by simp))
        · obtain ⟨rfl, hslash⟩ := Classical.not_imp.mp hdirs
          obtain ⟨rest, rfl⟩ := List.head?_eq_some_iff.mp (not_not.mp hslash)
          refine agree_step readParts_dirs agree_dirs
            (hnext ['*', '*', '/'] true true _ rfl (by simp) ?_ ?_)
          · exact fun _ => ⟨['*', '*'], rfl⟩
          · rintro rfl
            exact absurd ⟨[], rfl, .inl ⟨rfl, rfl⟩⟩ hclosed
      · exact agree_step (readParts_star hsecond) (agree_of_eq (reading_star hsecond))
          (hnext ['*'] false false _ rfl (by simp) (by simp) (by simp))
    by_cases hmark : c = '?'
    · subst hmark
      exact agree_step readParts_mark (agree_of_eq reading_mark)
        (hnext ['?'] false false _ rfl (by simp) (by simp) (by simp))
    by_cases hbelow : c :: rest = ['/', '*', '*']
    · rw [hbelow, readParts_below, built_cons]
      intro path hpath
      exact (agree_below.mul_left (built read) path hpath).symm
    · refine agree_step (readParts_char hstar hmark)
        (agree_of_eq (reading_char hstar hmark hbelow))
        (hnext [c] _ _ _ rfl (by simp) ?_ ?_)
      · intro hslash
        rw [beq_iff_eq.mp hslash]
        exact ⟨[], rfl⟩
      · rintro rfl
        exact beq_false_of_ne fun hslash => hbelow (by rw [hslash])

/-- What a glob is translated to, and what the translation means. -/
structure Exact (text : String) : Prop where
  /-- The emitted text is a regular expression, whatever the glob. -/
  well_formed : ∃! L : TextLanguage, Anchored (ofString text).regexText L
  /-- The glob matches what that expression stands for. -/
  matches_language : ∀ L : TextLanguage, Anchored (ofString text).regexText L →
    ∀ path : String, (ofString text).accepts path = true ↔ path.toList ∈ L
  /-- And that is what the direct reading of the glob consumes as a whole. -/
  matches_reading : ¬ ClosesDirs true text.toList → ∀ path : String, '\n' ∉ path.toList →
    ((ofString text).accepts path = true ↔ Reads true text.toList path.toList)

/-- **Globs are translated exactly.** -/
theorem ofString_exact (text : String) : Exact text where
  well_formed := ⟨_, anchored_regexText _, fun _ hM => hM.unique (anchored_regexText _)⟩
  matches_language L hL path := by
    rw [hL.unique (anchored_regexText _)]
    exact accepts_iff _ _
  matches_reading hclosed path hpath := by
    have hone : built [] = 1 := rfl
    have hagree :=
      agree_readParts text.toList true false [] hclosed (fun _ => rfl) path.toList hpath
    rw [hone, one_mul] at hagree
    rw [accepts_iff]
    exact hagree

/-- A double star in the middle stands for directories, one at the end for the directory itself. -/
theorem ofString_exact_sampleGlob :
    ¬ ClosesDirs true "s/**/?/**".toList ∧ '\n' ∉ "s/a/b/c".toList ∧
      (ofString "s/**/?/**").accepts "s/a/b/c" = true := by
  have hclosed : ¬ ClosesDirs true "s/**/?/**".toList := by
    rintro ⟨front, h, -⟩
    have hend := congrArg (fun cs : List Char => cs.reverse.take 5) h
    simp at hend
  have hpath : '\n' ∉ "s/a/b/c".toList := by decide
  refine ⟨hclosed, hpath, ((ofString_exact "s/**/?/**").matches_reading hclosed _ hpath).mpr ?_⟩
  have hdirs : Reads true ['*', '*', '/', '?', '/', '*', '*'] ['a', '/', 'b', '/', 'c'] :=
    .dirs ['a', '/', 'b'] (.anyChar (by decide) .itself)
  exact .literal (by decide) (by decide) (by decide)
    (.literal (by decide) (by decide) (by decide) hdirs)

end Glob
end Dossier
