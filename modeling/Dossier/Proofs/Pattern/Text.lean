import Dossier.Pattern.Source
import Dossier.Proofs.Pattern.Language

/-!
# Languages of regular expressions

The text of a regular expression stands for a language, by a grammar that says which characters
stand for themselves, which have to be escaped, and what a repetition applies to. `Denotes` has the
part of the grammar that globs need. It leaves no choice: a text can be read in one way only
(`Anchored.unique`).
-/

set_option autoImplicit false

namespace Dossier.Pattern

open scoped Computability

/-! ## The grammar -/

/-- The levels at which an expression can stand. -/
inductive Level where
  /-- Something that can be repeated. -/
  | atom
  /-- An atom, or an atom that is repeated. -/
  | factor
  /-- Factors one after another. -/
  | term

/-- The characters are a regular expression, and it stands for the language. -/
inductive Denotes : Level → List Char → TextLanguage → Prop where
  /-- A character without a meaning of its own stands for itself. -/
  | plain {c : Char} (hc : c ∉ metaCharacters) : Denotes .atom [c] (oneChar (· = c))
  /-- A character with a meaning of its own stands for itself behind a backslash. -/
  | escaped {c : Char} (hc : c ∈ metaCharacters) : Denotes .atom ['\\', c] (oneChar (· = c))
  /-- Any character but a line break. -/
  | dot : Denotes .atom ['.'] (oneChar (· ≠ '\n'))
  /-- Any character but one. -/
  | negated {c : Char} (hc : c ∉ metaCharacters) :
      Denotes .atom ['[', '^', c, ']'] (oneChar (· ≠ c))
  | grouped {cs : List Char} {L : TextLanguage} (h : Denotes .term cs L) :
      Denotes .atom (['(', '?', ':'] ++ cs ++ [')']) L
  | once {cs : List Char} {L : TextLanguage} (h : Denotes .atom cs L) : Denotes .factor cs L
  | star {cs : List Char} {L : TextLanguage} (h : Denotes .atom cs L) :
      Denotes .factor (cs ++ ['*']) L∗
  | optional {cs : List Char} {L : TextLanguage} (h : Denotes .atom cs L) :
      Denotes .factor (cs ++ ['?']) (1 + L)
  | nil : Denotes .term [] 1
  | cons {cs ds : List Char} {L M : TextLanguage} (h : Denotes .factor cs L)
      (hs : Denotes .term ds M) : Denotes .term (cs ++ ds) (L * M)

/-- The text is a regular expression between anchors: it matches whole texts of the language. -/
def Anchored (text : String) (L : TextLanguage) : Prop :=
  ∃ cs, text.toList = '^' :: cs ++ ['$'] ∧ Denotes .term cs L

/-! ## One way to read a text -/

/-- An expression that is not empty begins with none of the signs that may follow an expression. -/
theorem Denotes.head_ne {l : Level} {cs : List Char} {L : TextLanguage} (h : Denotes l cs L)
    (hl : l ≠ .term) : ∃ c rest, cs = c :: rest ∧ c ∉ ['*', '?', ')'] := by
  induction h with
  | @plain c hc =>
    refine ⟨c, [], rfl, fun hmem => hc ?_⟩
    simp only [List.mem_cons, List.not_mem_nil, or_false] at hmem
    rcases hmem with rfl | rfl | rfl <;> decide
  | @escaped c hc => exact ⟨'\\', [c], rfl, by decide⟩
  | dot => exact ⟨'.', [], rfl, by decide⟩
  | @negated c hc => exact ⟨'[', ['^', c, ']'], rfl, by decide⟩
  | @grouped cs L h _ => exact ⟨'(', '?' :: ':' :: cs ++ [')'], rfl, by decide⟩
  | once h ih => exact ih (by simp)
  | star h ih =>
    obtain ⟨c, rest, rfl, hc⟩ := ih (by simp)
    exact ⟨c, rest ++ ['*'], rfl, hc⟩
  | optional h ih =>
    obtain ⟨c, rest, rfl, hc⟩ := ih (by simp)
    exact ⟨c, rest ++ ['?'], rfl, hc⟩
  | nil | cons => exact absurd rfl hl

/-- A place where a term ends: the end of the text or of a group. -/
def Ends (x : List Char) : Prop := x = [] ∨ ∃ rest, x = ')' :: rest

/-- Terms of fewer than `n` characters are read in one way. -/
def TermsUnique (n : Nat) : Prop :=
  ∀ {cs ds : List Char} {L M : TextLanguage} {x y : List Char}, cs.length < n →
    Denotes .term cs L → Denotes .term ds M → cs ++ x = ds ++ y → Ends x → Ends y →
      cs = ds ∧ L = M

theorem atom_unique {n : Nat} (hn : TermsUnique n) {cs ds : List Char} {L M : TextLanguage}
    {x y : List Char} (hlen : cs.length ≤ n) (hcs : Denotes .atom cs L) (hds : Denotes .atom ds M)
    (heq : cs ++ x = ds ++ y) : cs = ds ∧ L = M := by
  cases hcs with
  | plain hc =>
    cases hds with
    | plain hd => 
      obtain ⟨rfl, -⟩ := List.cons.inj heq
      exact ⟨rfl, rfl⟩
    | _ => 
      rw [(List.cons.inj heq).1] at hc
      exact absurd (by decide) hc
  | escaped hc =>
    cases hds with
    | plain hd =>
      rw [← (List.cons.inj heq).1] at hd
      exact absurd (by decide) hd
    | escaped hd =>
      obtain ⟨rfl, -⟩ := List.cons.inj (List.cons.inj heq).2
      exact ⟨rfl, rfl⟩
    | _ => simp at heq
  | dot =>
    cases hds with
    | plain hd =>
      rw [← (List.cons.inj heq).1] at hd
      exact absurd (by decide) hd
    | dot => exact ⟨rfl, rfl⟩
    | _ => simp at heq
  | negated hc =>
    cases hds with
    | plain hd =>
      rw [← (List.cons.inj heq).1] at hd
      exact absurd (by decide) hd
    | negated hd =>
      simp only [List.cons_append, List.cons.injEq, true_and] at heq
      obtain ⟨rfl, -⟩ := heq
      exact ⟨rfl, rfl⟩
    | _ => simp at heq
  | grouped hc =>
    cases hds with
    | plain hd =>
      rw [← (List.cons.inj heq).1] at hd
      exact absurd (by decide) hd
    | grouped hd =>
      simp only [List.cons_append, List.nil_append, List.append_assoc, List.cons.injEq, true_and]
        at heq
      simp only [List.length_append, List.length_cons, List.length_nil] at hlen
      obtain ⟨rfl, rfl⟩ := hn (by omega) hc hd heq (.inr ⟨_, rfl⟩) (.inr ⟨_, rfl⟩)
      exact ⟨rfl, rfl⟩
    | _ => simp at heq

/-- What comes after a factor does not repeat it. -/
def Unrepeated (x : List Char) : Prop := ∀ rest, x ≠ '*' :: rest ∧ x ≠ '?' :: rest

/-- What the sign behind an atom makes of its language. -/
inductive Repeats (A : TextLanguage) : List Char → TextLanguage → Prop where
  | once : Repeats A [] A
  | star : Repeats A ['*'] A∗
  | optional : Repeats A ['?'] (1 + A)

theorem Denotes.exists_atom {cs : List Char} {L : TextLanguage} (h : Denotes .factor cs L) :
    ∃ a A sign, Denotes .atom a A ∧ Repeats A sign L ∧ cs = a ++ sign := by
  cases h with
  | once h => exact ⟨_, _, [], h, .once, by rw [List.append_nil]⟩
  | star h => exact ⟨_, _, ['*'], h, .star, rfl⟩
  | optional h => exact ⟨_, _, ['?'], h, .optional, rfl⟩

theorem Repeats.unique {A L M : TextLanguage} {s s' x y : List Char} (hs : Repeats A s L)
    (hs' : Repeats A s' M) (heq : s ++ x = s' ++ y) (hx : Unrepeated x) (hy : Unrepeated y) :
    s = s' ∧ L = M := by
  cases hs with
  | once =>
    cases hs' with
    | once => exact ⟨rfl, rfl⟩
    | star => exact absurd heq (hx y).1
    | optional => exact absurd heq (hx y).2
  | star =>
    cases hs' with
    | once => exact absurd heq.symm (hy x).1
    | star => exact ⟨rfl, rfl⟩
    | optional => simp at heq
  | optional =>
    cases hs' with
    | once => exact absurd heq.symm (hy x).2
    | star => simp at heq
    | optional => exact ⟨rfl, rfl⟩

theorem factor_unique {n : Nat} (hn : TermsUnique n) {cs ds : List Char} {L M : TextLanguage}
    {x y : List Char} (hlen : cs.length ≤ n) (hcs : Denotes .factor cs L)
    (hds : Denotes .factor ds M) (heq : cs ++ x = ds ++ y) (hx : Unrepeated x)
    (hy : Unrepeated y) : cs = ds ∧ L = M := by
  obtain ⟨a, A, s, ha, hs, rfl⟩ := hcs.exists_atom
  obtain ⟨b, B, s', hb, hs', rfl⟩ := hds.exists_atom
  rw [List.append_assoc, List.append_assoc] at heq
  rw [List.length_append] at hlen
  obtain ⟨rfl, rfl⟩ := atom_unique hn (by omega) ha hb heq
  obtain ⟨rfl, rfl⟩ := hs.unique hs' (List.append_cancel_left heq) hx hy
  exact ⟨rfl, rfl⟩

theorem Denotes.unrepeated {cs x : List Char} {L : TextLanguage} (h : Denotes .term cs L)
    (hx : Ends x) : Unrepeated (cs ++ x) := by
  intro rest
  cases h with
  | nil =>
    rcases hx with rfl | ⟨_, rfl⟩ <;> simp
  | cons h _ =>
    obtain ⟨c, _, rfl, hc⟩ := h.head_ne (by simp)
    constructor
    · intro heq
      rw [(List.cons.inj heq).1] at hc
      exact absurd (by decide) hc
    · intro heq
      rw [(List.cons.inj heq).1] at hc
      exact absurd (by decide) hc

theorem Denotes.not_ends {cs ds x : List Char} {L : TextLanguage} (h : Denotes .factor cs L)
    (hx : Ends (cs ++ ds ++ x)) : False := by
  obtain ⟨c, rest, rfl, hc⟩ := h.head_ne (by simp)
  rcases hx with hx | ⟨_, hx⟩
  · cases hx
  · rw [(List.cons.inj hx).1] at hc
    exact absurd (by decide) hc

theorem termsUnique (n : Nat) : TermsUnique n := by
  induction n with
  | zero =>
    intro _ _ _ _ _ _ hlen
    exact absurd hlen (Nat.not_lt_zero _)
  | succ n ih =>
    intro cs ds L M x y hlen hcs hds heq hx hy
    cases hcs with
    | nil =>
      cases hds with
      | nil => exact ⟨rfl, rfl⟩
      | cons h _ =>
        rw [List.nil_append] at heq
        rw [heq] at hx
        exact (h.not_ends hx).elim
    | @cons f f' F F' hf hf' =>
      cases hds with
      | nil =>
        rw [List.nil_append] at heq
        rw [← heq] at hy
        exact (hf.not_ends hy).elim
      | @cons g g' G G' hg hg' =>
        rw [List.append_assoc, List.append_assoc] at heq
        rw [List.length_append] at hlen
        -- The first factor is the same, and what is left is shorter because a factor is not empty.
        obtain ⟨rfl, rfl⟩ := factor_unique ih (by omega) hf hg heq (hf'.unrepeated hx)
          (hg'.unrepeated hy)
        obtain ⟨c, rest, rfl, -⟩ := hf.head_ne (by simp)
        rw [List.length_cons] at hlen
        obtain ⟨rfl, rfl⟩ := ih (by omega) hf' hg' (List.append_cancel_left heq) hx hy
        exact ⟨rfl, rfl⟩

/-- **A regular expression has one language.** -/
theorem Anchored.unique {text : String} {L M : TextLanguage} (hL : Anchored text L)
    (hM : Anchored text M) : L = M := by
  obtain ⟨cs, hcs, hL⟩ := hL
  obtain ⟨ds, hds, hM⟩ := hM
  have heq : cs ++ ['$'] = ds ++ ['$'] := (List.cons.inj (hcs.symm.trans hds)).2
  obtain rfl := List.append_cancel_right heq
  exact (termsUnique (cs.length + 1) (Nat.lt_succ_self _) hL hM rfl (.inl rfl) (.inl rfl)).2

/-! ## Texts of patterns -/

theorem denotes_escapeChar (c : Char) : Denotes .atom (escapeChar c) (oneChar (· = c)) := by
  unfold escapeChar
  split
  · next h => exact .escaped (List.contains_iff_mem.mp h)
  · next h => exact .plain fun hc => h (List.contains_iff_mem.mpr hc)

theorem denotes_star {cs : List Char} {P : Char → Prop} (h : Denotes .atom cs (oneChar P)) :
    Denotes .factor (cs ++ ['*']) (allChars P) := by
  rw [← kstar_oneChar]
  exact .star h

theorem denotes_sequence {α : Type} {pattern : α → Pattern} {language : α → TextLanguage}
    (h : ∀ a, Denotes .factor (pattern a).source (language a)) (as : List α) :
    Denotes .term (sequence (as.map pattern)).source (as.map language).prod := by
  induction as with
  | nil => exact .nil
  | cons a as ih =>
    rw [List.map_cons, List.map_cons, List.prod_cons]
    exact .cons (h a) ih

end Dossier.Pattern
