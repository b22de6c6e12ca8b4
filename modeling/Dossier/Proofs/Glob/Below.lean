import Dossier.Proofs.Glob
import Mathlib.Order.WellFounded

/-!
# A directory and everything below it

`/**` behind a glob stands for what the glob accepts and for everything below it, and a second copy
behind the first says the same. **`withBelow_exact`** settles what any number of copies says behind
any glob: from the third one on, only what lies below is accepted, and the directory itself is lost.

A `/` divides a glob: nothing is read across it (`readParts_append_slash`). So the copies are read
behind whatever the glob itself was read into, each as a part for directories, and the last of them
is closed with what stands before it. Closing takes back one part for directories and no more, and
this is why it makes a difference how many there are.
-/

set_option autoImplicit false

namespace Dossier.Glob

open Pattern
open scoped Computability

variable {b i : Bool} {read : List GlobPart} {cs rest : List Char}

/-! ## What stands before a separator -/

theorem readParts_text_slash : readParts false i read ('*' :: '*' :: '/' :: rest) =
    readParts true true (.literal '/' :: .anyText :: read) rest := by
  rw [readParts]
  rfl

theorem readParts_text_append (hne : cs ≠ []) (hslash : ∀ tail, cs ≠ '/' :: tail) :
    readParts b i read ('*' :: '*' :: (cs ++ rest)) =
      readParts false false (.anyText :: read) (cs ++ rest) := by
  obtain ⟨c, tail, rfl⟩ := List.exists_cons_of_ne_nil hne
  refine readParts_text (fun _ hc => hslash tail ?_) (by simp)
  rw [Option.some.inj hc]

theorem readParts_star_slash (hstar : ∀ tail, cs ≠ '*' :: tail) :
    readParts b i read ('*' :: (cs ++ '/' :: rest)) =
      readParts false false (.anyRun :: read) (cs ++ '/' :: rest) := by
  refine readParts_star fun hc => ?_
  cases cs with
  | nil => simp at hc
  | cons c tail => exact hstar tail (by rw [Option.some.inj hc])

/-- **Nothing is read across a separator.** -/
theorem readParts_append_slash (b i : Bool) (read : List GlobPart) (cs rest : List Char) :
    readParts b i read (cs ++ '/' :: rest) =
      readParts true true (readParts b i read (cs ++ ['/'])) rest := by
  fun_induction readParts b i read cs with
  | case1 i read tail ih => simpa only [List.cons_append, readParts_dirs] using ih
  | case2 b i read tail hb ih =>
    obtain rfl := Bool.eq_false_of_not_eq_true hb
    simpa only [List.cons_append, readParts_text_slash] using ih
  | case3 b read | case4 b i read =>
    -- What ends the glob when it stands alone is not at its end any more.
    cases b with
    | true =>
      simp only [List.cons_append, List.nil_append, readParts_dirs]
      rfl
    | false =>
      simp only [List.cons_append, List.nil_append, readParts_text_slash]
      rfl
  | case5 b i read tail hslash hne ih =>
    simpa only [List.cons_append, readParts_text_append hne hslash] using ih
  | case6 b i read tail _ _ hstar ih =>
    simpa only [List.cons_append, readParts_star_slash hstar] using ih
  | case7 b i read tail ih => simpa only [List.cons_append, readParts_mark] using ih
  | case8 b i read c tail _ _ _ hstar hmark ih =>
    simpa only [List.cons_append, readParts_char hstar hmark] using ih
  | case9 b i read =>
    have hslash : ∀ rest, readParts b i read ('/' :: rest) =
        readParts true true (.literal '/' :: read) rest :=
      fun _ => readParts_char (by decide) (by decide)
    rw [List.nil_append, List.nil_append, hslash, hslash]
    rfl

/-- That a segment starts behind `front`, when `b` tells whether one starts before it. -/
def StartsSegment (b : Bool) (front : List Char) : Prop :=
  front = [] ∧ b = true ∨ ∃ before, front = before ++ ['/']

/-- The last segment of the glob is a double star. -/
def EndsInStars (b : Bool) (text : List Char) : Prop :=
  ∃ front, text = front ++ ['*', '*'] ∧ StartsSegment b front

theorem EndsInStars.of_tail {b' : Bool} (front : List Char) (hrest : EndsInStars b' rest)
    (hfront : b' = true → ∃ before, front = before ++ ['/']) : EndsInStars b (front ++ rest) := by
  obtain ⟨inner, rfl, hinner⟩ := hrest
  refine ⟨front ++ inner, by rw [List.append_assoc], .inr ?_⟩
  rcases hinner with ⟨rfl, hb⟩ | ⟨before, rfl⟩
  · rw [List.append_nil]
    exact hfront hb
  · exact ⟨front ++ before, by rw [List.append_assoc]⟩

/-- Behind anything but a segment of two stars, a separator is read for itself. -/
theorem readParts_concat_slash (h : ¬ EndsInStars b cs) (hi : i = true → b = true) :
    readParts b i read (cs ++ ['/']) = .literal '/' :: readParts b i read cs := by
  fun_induction readParts b i read cs with
  | case1 i read tail ih =>
    rw [← ih (fun ht => h (ht.of_tail ['*', '*', '/'] fun _ => ⟨['*', '*'], rfl⟩)) id]
    exact readParts_dirs
  | case2 b i read tail hb ih =>
    obtain rfl := Bool.eq_false_of_not_eq_true hb
    rw [← ih (fun ht => h (ht.of_tail ['*', '*', '/'] fun _ => ⟨['*', '*'], rfl⟩)) id]
    exact readParts_text_slash
  | case3 b read => exact absurd ⟨[], rfl, .inl ⟨rfl, hi rfl⟩⟩ h
  | case4 b i read =>
    cases b with
    | true => exact absurd ⟨[], rfl, .inl ⟨rfl, rfl⟩⟩ h
    | false => exact readParts_text_slash
  | case5 b i read tail hslash hne ih =>
    rw [← ih (fun ht => h (ht.of_tail ['*', '*'] (by simp))) id]
    exact readParts_text_append hne hslash
  | case6 b i read tail _ _ hstar ih =>
    rw [← ih (fun ht => h (ht.of_tail ['*'] (by simp))) id]
    exact readParts_star_slash hstar
  | case7 b i read tail ih =>
    rw [← ih (fun ht => h (ht.of_tail ['?'] (by simp))) id]
    exact readParts_mark
  | case8 b i read c tail _ _ _ hstar hmark ih =>
    rw [← ih (fun ht => h (ht.of_tail [c] fun hc => ⟨[], by simpa using hc⟩)) id]
    exact readParts_char hstar hmark
  | case9 b i read => exact readParts_char (by decide) (by decide)

/-! ## Copies behind a glob -/

/-- The glob with so many copies of `/**` behind it. -/
def withBelow (text : String) (n : Nat) : String := text ++ String.join (List.replicate n "/**")

theorem toList_withBelow (text : String) (n : Nat) :
    (withBelow text n).toList = text.toList ++ (List.replicate n ['/', '*', '*']).flatten := by
  have hcopy : ("/**" : String).toList = ['/', '*', '*'] := rfl
  rw [withBelow, String.toList_append, String.toList_join, List.flatMap_replicate, hcopy]

theorem withBelow_zero (text : String) : withBelow text 0 = text := by
  simp [withBelow]

theorem withBelow_withBelow (text : String) (m n : Nat) :
    withBelow (withBelow text m) n = withBelow text (m + n) := by
  rw [← String.toList_inj, toList_withBelow, toList_withBelow, toList_withBelow,
    List.replicate_add, List.flatten_append, List.append_assoc]

/-- Every glob is one that does not end in a segment of two stars, or such a segment alone, with
copies behind it. -/
theorem exists_withBelow (text : String) : ∃ base m, text = withBelow base m ∧
    (base = "**" ∨ ¬ EndsInStars true base.toList) := by
  induction hlength : text.length using Nat.strong_induction_on generalizing text with
  | _ n ih =>
    subst hlength
    by_cases hstars : EndsInStars true text.toList
    · obtain ⟨front, htext, ⟨rfl, -⟩ | ⟨before, rfl⟩⟩ := hstars
      · exact ⟨text, 0, (withBelow_zero text).symm, .inl (String.toList_injective htext)⟩
      · have htext : text = withBelow (String.ofList before) 1 := by
          rw [← String.toList_inj, htext, toList_withBelow, String.toList_ofList]
          simp
        have hlt : (String.ofList before).length < text.length := by
          rw [htext, ← String.length_toList, ← String.length_toList, toList_withBelow]
          simp
        obtain ⟨base, m, hbefore, hbase⟩ := ih _ hlt _ rfl
        refine ⟨base, m + 1, ?_, hbase⟩
        rw [htext, hbefore, withBelow_withBelow]
    · exact ⟨text, 0, (withBelow_zero text).symm, .inr hstars⟩

/-- What the glob is read into, the last part first, when a separator comes behind it. -/
def opened (text : String) : List GlobPart := readParts true false [] (text.toList ++ ['/'])

theorem opened_eq {text : String} (h : ¬ EndsInStars true text.toList) :
    opened text = .literal '/' :: (ofString text).parts.reverse := by
  rw [opened, readParts_concat_slash h (by simp), ofString, List.reverse_reverse]

theorem opened_stars : opened "**" = [.anyDirs] := by
  decide

/-- Each copy but the last is read as a part for directories. -/
theorem readParts_copies (n : Nat) (read : List GlobPart) :
    readParts true true read ('*' :: '*' :: (List.replicate n ['/', '*', '*']).flatten) =
      closeBelow (List.replicate n .anyDirs ++ read) := by
  induction n generalizing read with
  | zero => rfl
  | succ n ih =>
    have hshift : List.replicate (n + 1) GlobPart.anyDirs ++ read =
        List.replicate n .anyDirs ++ .anyDirs :: read := by
      rw [List.replicate_succ', List.append_assoc]
      rfl
    rw [List.replicate_succ, List.flatten_cons, hshift, ← ih]
    exact readParts_dirs

theorem parts_withBelow (text : String) (n : Nat) : (ofString (withBelow text (n + 1))).parts =
    (closeBelow (List.replicate n .anyDirs ++ opened text)).reverse := by
  rw [ofString, toList_withBelow, List.replicate_succ, List.flatten_cons, opened,
    ← readParts_copies]
  exact congrArg List.reverse (readParts_append_slash true false [] text.toList _)

/-! ## What the copies accept -/

theorem mem_built {text path : String} (hread : (ofString text).parts = read.reverse) :
    (ofString text).accepts path = true ↔ path.toList ∈ built read := by
  rw [accepts_iff, language, hread, built]

theorem dirs_mul_text :
    GlobPart.anyDirs.language * GlobPart.anyText.language = GlobPart.anyText.language := by
  ext path
  rw [Language.mem_mul]
  constructor
  · rintro ⟨front, hfront, text, htext, rfl⟩
    rcases mem_anyDirs.mp hfront with rfl | ⟨dirs, hdirs, rfl⟩
    · exact htext
    · refine mem_anyLine.mpr fun hline => ?_
      simp only [List.mem_append, List.mem_singleton] at hline
      rcases hline with (h | h) | h
      · exact hdirs h
      · cases h
      · exact mem_anyLine.mp htext h
  · intro hpath
    exact ⟨[], mem_anyDirs.mpr (.inl rfl), path, hpath, rfl⟩

theorem built_dirs_text (n : Nat) (read : List GlobPart) :
    built (.anyText :: (List.replicate n .anyDirs ++ read)) =
      built read * GlobPart.anyText.language := by
  induction n with
  | zero => exact built_cons _ _
  | succ n ih =>
    rw [← ih, List.replicate_succ, List.cons_append, built_cons, built_cons, built_cons, mul_assoc,
      dirs_mul_text]

/-- That a path lies below one that the glob accepts. -/
def Under (text path : String) : Prop :=
  ∃ dir rest : String, (ofString text).accepts dir = true ∧ '\n' ∉ rest.toList ∧
    path = dir ++ "/" ++ rest

theorem under_iff {text path : String} : Under text path ↔
    path.toList ∈ built (.anyText :: .literal '/' :: (ofString text).parts.reverse) := by
  have hbuilt : built (ofString text).parts.reverse = (ofString text).language := by
    rw [built, List.reverse_reverse, language]
  rw [built_cons, built_cons, hbuilt, Language.mem_mul]
  constructor
  · rintro ⟨dir, rest, hdir, hrest, rfl⟩
    refine ⟨dir.toList ++ ['/'], ?_, rest.toList, mem_anyLine.mpr hrest, by simp⟩
    exact Language.mem_mul.mpr ⟨_, (accepts_iff _ _).mp hdir, ['/'], ⟨'/', rfl, rfl⟩, rfl⟩
  · rintro ⟨front, hfront, rest, hrest, hpath⟩
    obtain ⟨dir, hdir, _, ⟨x, rfl, rfl⟩, rfl⟩ := Language.mem_mul.mp hfront
    refine ⟨String.ofList dir, String.ofList rest, (accepts_iff _ _).mpr ?_, ?_, ?_⟩
    · rwa [String.toList_ofList]
    · rw [String.toList_ofList]
      exact mem_anyLine.mp hrest
    · rw [← String.toList_inj, ← hpath]
      simp

theorem mem_built_below {text path : String} :
    path.toList ∈ built (.below :: (ofString text).parts.reverse) ↔
      (ofString text).accepts path = true ∨ Under text path := by
  have hbelow : GlobPart.below.language =
      1 + (GlobPart.literal '/').language * GlobPart.anyText.language := rfl
  rw [under_iff, mem_built (List.reverse_reverse _).symm, built_cons, built_cons, built_cons,
    hbelow, mul_add, mul_one, mul_assoc, Language.mem_add]

/-- **One copy or two stand for the directory itself and what lies below it, more copies for what
lies below it.** -/
theorem accepts_withBelow {base : String} (hbase : ¬ EndsInStars true base.toList) {n : Nat}
    (hn : 1 ≤ n) (path : String) : (ofString (withBelow base n)).accepts path = true ↔
      n ≤ 2 ∧ (ofString base).accepts path = true ∨ Under base path := by
  -- Closing takes back the part that the first copy of two was read as.
  have hclose : ∀ n, n = 0 ∨ n = 1 → closeBelow (List.replicate n .anyDirs ++ opened base) =
      .below :: (ofString base).parts.reverse := by
    rw [opened_eq hbase]
    rintro n (rfl | rfl) <;> rfl
  rcases n with _ | _ | _ | n
  · cases hn
  · rw [mem_built (parts_withBelow base 0), hclose 0 (.inl rfl), mem_built_below]
    simp
  · rw [mem_built (parts_withBelow base 1), hclose 1 (.inr rfl), mem_built_below]
    simp
  · have hclose : closeBelow (List.replicate (n + 2) .anyDirs ++ opened base) =
        .anyText :: (List.replicate (n + 1) .anyDirs ++ opened base) := rfl
    rw [mem_built (parts_withBelow base (n + 2)), hclose, built_dirs_text, ← built_cons,
      opened_eq hbase, ← under_iff]
    simp

theorem accepts_stars (n : Nat) (path : String) :
    (ofString (withBelow "**" n)).accepts path = true ↔ '\n' ∉ path.toList := by
  have hbuilt : ∀ k, built (.anyText :: List.replicate k .anyDirs) = GlobPart.anyText.language := by
    intro k
    have hnone : built [] = 1 := rfl
    have h := built_dirs_text k []
    rwa [List.append_nil, hnone, one_mul] at h
  have hparts : ∃ k, (ofString (withBelow "**" n)).parts =
      (.anyText :: List.replicate k .anyDirs : List GlobPart).reverse := by
    cases n with
    | zero => exact ⟨0, rfl⟩
    | succ n =>
      refine ⟨n, ?_⟩
      rw [parts_withBelow, opened_stars, ← List.replicate_succ']
      cases n <;> rfl
  obtain ⟨k, hk⟩ := hparts
  rw [mem_built hk, hbuilt]
  exact mem_anyLine

/-! ## Globs that are paths -/

/-- The glob has no signs in it: every character stands for itself. -/
def IsLiteral (text : String) : Prop := '*' ∉ text.toList ∧ '?' ∉ text.toList

instance (text : String) : Decidable (IsLiteral text) := inferInstanceAs (Decidable (_ ∧ _))

theorem IsLiteral.not_endsInStars {text : String} (h : IsLiteral text) :
    ¬ EndsInStars true text.toList := by
  rintro ⟨front, htext, -⟩
  exact h.1 (by simp [htext])

theorem readParts_literal (hcs : '*' ∉ cs ∧ '?' ∉ cs) (b i : Bool) (read : List GlobPart)
    (rest : List Char) : ∃ b' i', readParts b i read (cs ++ rest) =
      readParts b' i' (cs.reverse.map .literal ++ read) rest := by
  induction cs generalizing b i read with
  | nil => exact ⟨b, i, rfl⟩
  | cons c cs ih =>
    simp only [List.mem_cons, not_or] at hcs
    obtain ⟨⟨hstar, hstars⟩, hmark, hmarks⟩ := hcs
    obtain ⟨b', i', h⟩ := ih ⟨hstars, hmarks⟩ (c == '/') (c == '/') (.literal c :: read)
    refine ⟨b', i', ?_⟩
    rw [List.cons_append, readParts_char (Ne.symm hstar) (Ne.symm hmark), h]
    simp

theorem mem_built_literal {path : List Char} : path ∈ built (cs.reverse.map .literal ++ read) ↔
    ∃ front ∈ built read, path = front ++ cs := by
  induction cs using List.reverseRecOn generalizing path with
  | nil => simp
  | append_singleton cs c ih =>
    rw [List.reverse_concat, List.map_cons, List.cons_append, built_cons, Language.mem_mul]
    constructor
    · rintro ⟨front, hfront, _, ⟨x, rfl, rfl⟩, rfl⟩
      obtain ⟨front, hread, rfl⟩ := ih.mp hfront
      exact ⟨front, hread, by rw [List.append_assoc]⟩
    · rintro ⟨front, hread, rfl⟩
      exact ⟨front ++ cs, ih.mpr ⟨front, hread, rfl⟩, [c], ⟨c, rfl, rfl⟩, by rw [List.append_assoc]⟩

theorem accepts_literal {text : String} (h : IsLiteral text) (path : String) :
    (ofString text).accepts path = true ↔ path = text := by
  obtain ⟨b, i, hread⟩ := readParts_literal h true false [] []
  have hparts : (ofString text).parts =
      (text.toList.reverse.map GlobPart.literal ++ []).reverse := by
    rw [List.append_nil] at hread
    rw [ofString, hread, readParts]
  have hnone : built [] = 1 := rfl
  rw [mem_built hparts, mem_built_literal, hnone]
  constructor
  · rintro ⟨front, rfl, hpath⟩
    exact String.toList_injective hpath
  · rintro rfl
    exact ⟨[], rfl, rfl⟩

/-! ## The law of copies -/

theorem nonempty_language (part : GlobPart) : ∃ path, path ∈ part.language := by
  cases part with
  | literal c => exact ⟨[c], c, rfl, rfl⟩
  | anyChar => exact ⟨['a'], 'a', by decide, rfl⟩
  | anyRun | anyText => exact ⟨[], by simp [GlobPart.language, mem_allChars]⟩
  | anyDirs => exact ⟨[], mem_anyDirs.mpr (.inl rfl)⟩
  | below => exact ⟨[], mem_below.mpr (.inl rfl)⟩

theorem exists_accepts (text : String) : ∃ path, (ofString text).accepts path = true := by
  have hprod : ∀ parts : List GlobPart, ∃ path, path ∈ (parts.map GlobPart.language).prod := by
    intro parts
    induction parts with
    | nil => exact ⟨[], rfl⟩
    | cons part parts ih =>
      obtain ⟨front, hfront⟩ := nonempty_language part
      obtain ⟨back, hback⟩ := ih
      rw [List.map_cons, List.prod_cons]
      exact ⟨front ++ back, Language.mem_mul.mpr ⟨front, hfront, back, hback, rfl⟩⟩
  obtain ⟨path, hpath⟩ := hprod (ofString text).parts
  exact ⟨String.ofList path, (accepts_iff _ _).mpr (by rwa [String.toList_ofList])⟩

/-- A glob accepts some path that lies below none that it accepts: a shortest one. -/
theorem exists_not_under (text : String) :
    ∃ path, (ofString text).accepts path = true ∧ ¬ Under text path := by
  obtain ⟨path, hpath, hleast⟩ := (measure String.length).wf.has_min
    {path | (ofString text).accepts path = true} (exists_accepts text)
  refine ⟨path, hpath, ?_⟩
  rintro ⟨dir, rest, hdir, -, rfl⟩
  refine hleast dir hdir ?_
  show dir.length < (dir ++ "/" ++ rest).length
  simp only [String.length_append]
  have hslash : "/".length = 1 := rfl
  omega

section Law

variable {base : String} (hbase : ¬ EndsInStars true base.toList) (m : Nat) {k : Nat} (hk : 1 ≤ k)

include hbase hk

/-- Copies that the glob ends in itself count as well. -/
theorem accepts_more (path : String) :
    (ofString (withBelow (withBelow base m) k)).accepts path = true ↔
      m + k ≤ 2 ∧ (ofString base).accepts path = true ∨ Under base path := by
  rw [withBelow_withBelow]
  exact accepts_withBelow hbase (by omega) path

/-- More copies say the same as one, unless the third is among them. -/
theorem same_iff : (∀ path, (ofString (withBelow (withBelow base m) k)).accepts path =
      (ofString (withBelow (withBelow base m) 1)).accepts path) ↔
    k = 1 ∨ m + k ≤ 2 ∨ 2 ≤ m := by
  have hone := accepts_more hbase m (Nat.le_refl 1)
  constructor
  · intro hsame
    by_contra hlost
    -- What is accepted and lies below nothing accepted is lost with the third copy.
    obtain ⟨path, hpath, hunder⟩ := exists_not_under base
    have haccepts := (hone path).mpr (.inl ⟨by omega, hpath⟩)
    rw [← hsame path, accepts_more hbase m hk path] at haccepts
    rcases haccepts with h | h
    · exact hlost (.inr (.inl h.1))
    · exact hunder h
  · intro hcount path
    have hle : m + k ≤ 2 ↔ m + 1 ≤ 2 := by omega
    rw [Bool.eq_iff_iff, accepts_more hbase m hk path, hone path, hle]

end Law

/-- With two copies a literal glob still accepts itself. -/
theorem accepts_itself {text : String} (hliteral : IsLiteral text) {k : Nat} (hk : 1 ≤ k) :
    (ofString (withBelow text k)).accepts text = true ↔ k ≤ 2 := by
  have hunder : ¬ Under text text := by
    intro h
    obtain ⟨dir, rest, hdir, -, htext⟩ := h
    rw [accepts_literal hliteral] at hdir
    have hlength := congrArg String.length htext
    have hslash : "/".length = 1 := rfl
    simp only [String.length_append, hdir] at hlength
    omega
  rw [accepts_withBelow hliteral.not_endsInStars hk, accepts_literal hliteral]
  simp [hunder]

/-- What copies of `/**` say behind a glob. -/
inductive Copies (text : String) : Prop where
  /-- All segments are double stars: with any number of copies, everything is accepted. -/
  | stars (m : Nat) (htext : text = withBelow "**" m)
      (accepts_iff : ∀ k path, (ofString (withBelow text k)).accepts path = true ↔
        '\n' ∉ path.toList)
  /-- Otherwise those at the end count as well. Up to two in all stand for the directory itself and
  what lies below it, more of them for what lies below it; so more copies say the same as one unless
  the third is among them. -/
  | counted (base : String) (m : Nat) (htext : text = withBelow base m)
      (hbase : ¬ EndsInStars true base.toList)
      (accepts_iff : ∀ k path, 1 ≤ k → ((ofString (withBelow text k)).accepts path = true ↔
        m + k ≤ 2 ∧ (ofString base).accepts path = true ∨ Under base path))
      (same_iff : ∀ k, 1 ≤ k → ((∀ path, (ofString (withBelow text k)).accepts path =
        (ofString (withBelow text 1)).accepts path) ↔ k = 1 ∨ m + k ≤ 2 ∨ 2 ≤ m))

/-- **Copies of `/**` say the same once and twice, and lose the directory itself with the third.** -/
theorem withBelow_exact (text : String) : Copies text ∧
    (IsLiteral text → ∀ k, 1 ≤ k →
      ((ofString (withBelow text k)).accepts text = true ↔ k ≤ 2)) := by
  refine ⟨?_, fun hliteral k hk => accepts_itself hliteral hk⟩
  obtain ⟨base, m, htext, hstars | hbase⟩ := exists_withBelow text
  · subst hstars htext
    refine .stars m rfl fun k path => ?_
    rw [withBelow_withBelow]
    exact accepts_stars (m + k) path
  · subst htext
    exact .counted base m rfl hbase (fun k path hk => accepts_more hbase m hk path)
      fun k hk => same_iff hbase m hk

theorem withBelow_exact_sampleGlob : IsLiteral "a/b" ∧
    (ofString (withBelow "a/b" 2)).accepts "a/b" = true ∧
    ¬ (ofString (withBelow "a/b" 3)).accepts "a/b" = true := by
  have hliteral : IsLiteral "a/b" := by decide
  have hexact := (withBelow_exact "a/b").2 hliteral
  exact ⟨hliteral, (hexact 2 (by decide)).mpr (by decide),
    fun h => absurd ((hexact 3 (by decide)).mp h) (by decide)⟩

/-- Behind a literal glob the third copy loses the directory. -/
theorem not_every_copy_same :
    ¬ ∀ text k, 1 ≤ k → ∀ path, (ofString (withBelow text k)).accepts path =
      (ofString (withBelow text 1)).accepts path := by
  intro h
  have hliteral : IsLiteral "src" := by decide
  have hone : (ofString (withBelow "src" 1)).accepts "src" = true :=
    (accepts_itself hliteral (by decide)).mpr (by decide)
  rw [← h "src" 3 (by decide) "src", accepts_itself hliteral (by decide)] at hone
  exact absurd hone (by decide)

end Dossier.Glob
