import Dossier.Extract.Registry
import Dossier.Proofs.Pattern.Captures
import Dossier.Proofs.Text.Words
import Mathlib

/-!
# Names and imports that are extracted

What a file declares and imports is found by patterns, and by taking lists of exports apart, in
texts that may hold anything. What comes out is well formed for every text (`wellFormed`): a symbol
is a name, of one character at least and without blanks, and imports are listed once and never
empty.

For what a pattern finds it is enough to look at the parts of the pattern that are kept. Names in
lists of exports are cut out by hand, and there the test at the end makes the difference.
-/

set_option autoImplicit false

namespace Dossier.Extract

open Pattern

/-! ## Names -/

/-- The characters of names: word characters, letters and numbers of every kind, dollar signs. -/
def isNameChar (x : Char) : Bool := Text.isWord x || Text.isAlphanumeric x || x == '$'

/-- A text is a name. -/
structure IsSymbol (name : String) : Prop where
  ne_empty : name ≠ ""
  chars : ∀ x ∈ name.toList, isNameChar x = true

theorem isBlank_of_isNameChar {x : Char} (h : isNameChar x = true) : Text.isBlank x = false := by
  simp only [isNameChar, Bool.or_eq_true, beq_iff_eq] at h
  rcases h with (hword | halphanumeric) | rfl
  · exact Text.isBlank_of_isWord hword
  · exact Text.isBlank_of_isAlphanumeric halphanumeric
  · rfl

theorem IsSymbol.not_blank {name : String} (h : IsSymbol name) :
    ∀ x ∈ name.toList, Text.isBlank x = false :=
  fun x hx => isBlank_of_isNameChar (h.chars x hx)

/-! ## Sets of name characters -/

/-- All characters of a set may stand in names. -/
def OfNames (s : CharSet) : Prop := ∀ x, s.has x = true → isNameChar x = true

theorem ofNames_only {c : Char} (h : isNameChar c = true) : OfNames (.only c) := by
  intro x hx
  obtain rfl := beq_iff_eq.mp hx
  exact h

theorem OfNames.union {s t : CharSet} (hs : OfNames s) (ht : OfNames t) :
    OfNames (.union s t) := by
  intro x hx
  rcases Bool.or_eq_true_iff.mp hx with hx | hx
  · exact hs x hx
  · exact ht x hx

theorem ofNames_word : OfNames .word := by
  intro x hx
  have hword : Text.isWord x = true := hx
  simp [isNameChar, hword]

theorem isWord_of_asciiLetter {x : Char} (h : asciiLetter.has x = true) :
    Text.isWord x = true := by
  simp only [asciiLetter, CharSet.has, Bool.or_eq_true, Bool.and_eq_true,
    decide_eq_true_eq, Char.le_def, UInt32.le_iff_toNat_le] at h
  have halpha : x.isAlpha = true := by
    simp only [Char.isAlpha, Char.isUpper, Char.isLower, Bool.or_eq_true, Bool.and_eq_true,
      decide_eq_true_eq, ge_iff_le, UInt32.le_iff_toNat_le]
    exact h
  have hascii : x.toNat < 128 := by
    have hval : x.toNat = x.val.toNat := rfl
    have hupper : 'Z'.val.toNat = 90 := rfl
    have hlower : 'z'.val.toNat = 122 := rfl
    omega
  rw [Text.isWord, if_pos hascii, Char.isAlphanum, halpha]
  rfl

theorem ofNames_asciiLetter : OfNames asciiLetter :=
  fun x hx => ofNames_word x (isWord_of_asciiLetter hx)

/-! ## Symbols -/

section Patterns

variable {p : Pattern} {text kept : String}

/-- A character for the start of a name, and then others: what is kept of them is a name. -/
theorem isSymbol_of_mem_capturesOf {first rest : CharSet}
    (hparts : p.parts 1 = [.seq (.one first) (.run rest false)])
    (hfirst : OfNames first) (hrest : OfNames rest) (h : kept ∈ capturesOf p 1 text) :
    IsSymbol kept := by
  obtain ⟨u, t, htakes⟩ := takes_of_mem_capturesOf hparts h
  generalize hcs : kept.toList = cs at htakes
  cases htakes with
  | seq hp hq =>
    cases hp with
    | @one _ _ _ x hx =>
      cases hq with
      | run hxs =>
        refine ⟨fun hempty => ?_, ?_⟩
        · rw [hempty] at hcs
          cases hcs
        · rw [hcs]
          exact List.forall_mem_cons.mpr ⟨hfirst x hx, fun y hy => hrest y (hxs y hy)⟩

/-- A run of one character at least is not empty. -/
theorem ne_empty_of_mem_capturesOf {s : CharSet} (hparts : p.parts 1 = [.run s true])
    (h : kept ∈ capturesOf p 1 text) : kept ≠ "" := by
  obtain ⟨u, t, htakes⟩ := takes_of_mem_capturesOf hparts h
  rintro rfl
  cases htakes with
  | run _ hne => exact hne rfl rfl

end Patterns

/-- What is left of an item of a list of exports is a name, or it is left out. -/
theorem isSymbol_of_mem_listedNames {list name : String} (h : name ∈ Script.listedNames list) :
    IsSymbol name := by
  obtain ⟨cs, hcs, rfl⟩ := List.mem_map.mp h
  obtain ⟨hne, hchars⟩ := Bool.and_eq_true_iff.mp (List.mem_filter.mp hcs).2
  obtain ⟨hne, -⟩ := Bool.and_eq_true_iff.mp hne
  refine ⟨fun hempty => ?_, fun x hx => ?_⟩
  · rw [String.ofList_eq_empty_iff] at hempty
    rw [hempty] at hne
    cases hne
  · rw [String.toList_ofList] at hx
    have hchar := List.all_eq_true.mp hchars x hx
    simp only [Bool.or_eq_true, beq_iff_eq] at hchar
    rcases hchar with (halphanumeric | rfl) | rfl
    · simp [isNameChar, halphanumeric]
    · rfl
    · rfl

theorem isSymbol_of_mem_script {text symbol : String} (h : symbol ∈ Script.symbols text) :
    IsSymbol symbol := by
  rcases List.mem_append.mp h with hdeclared | hlisted
  · have hfirst : OfNames (.union asciiLetter (.ofList ['_', '$'])) :=
      ofNames_asciiLetter.union ((ofNames_only rfl).union (ofNames_only rfl))
    have hrest : OfNames (.union .word (.only '$')) := ofNames_word.union (ofNames_only rfl)
    exact isSymbol_of_mem_capturesOf (p := Script.declaration) rfl hfirst hrest hdeclared
  · obtain ⟨list, -, hlist⟩ := List.mem_flatMap.mp hlisted
    exact isSymbol_of_mem_listedNames hlist

/-- **What a language takes for a symbol is a name**, whatever the text. -/
theorem isSymbol_of_mem_symbols (l : Language) {text symbol : String}
    (h : symbol ∈ l.symbols text) : IsSymbol symbol := by
  have hfirst : OfNames (.union asciiLetter (.only '_')) :=
    ofNames_asciiLetter.union (ofNames_only rfl)
  cases l with
  | script => exact isSymbol_of_mem_script h
  | python =>
    exact isSymbol_of_mem_capturesOf (p := Python.declaration) rfl hfirst ofNames_word h
  | rust => exact isSymbol_of_mem_capturesOf (p := Rust.declaration) rfl hfirst ofNames_word h

/-! ## Imports -/

/-- With one more item, unless it is there already. -/
def addNew (seen : List String) (item : String) : List String :=
  if seen.contains item then seen else item :: seen

theorem mem_addNew {seen : List String} {item other : String} :
    other ∈ addNew seen item ↔ other ∈ seen ∨ other = item := by
  unfold addNew
  split
  · next h =>
    refine ⟨.inl, ?_⟩
    rintro (hmem | rfl)
    · exact hmem
    · exact List.contains_iff_mem.mp h
  · rw [List.mem_cons, or_comm]

theorem nodup_addNew {seen : List String} (h : seen.Nodup) (item : String) :
    (addNew seen item).Nodup := by
  unfold addNew
  split
  · exact h
  · next hnew => exact List.nodup_cons.mpr ⟨fun hmem => hnew (List.contains_iff_mem.mpr hmem), h⟩

theorem foldl_addNew (items : List String) {seen : List String} (hseen : seen.Nodup) :
    (items.foldl addNew seen).Nodup ∧
      ∀ item, item ∈ items.foldl addNew seen ↔ item ∈ seen ∨ item ∈ items := by
  induction items generalizing seen with
  | nil => exact ⟨hseen, by simp⟩
  | cons first items ih =>
    obtain ⟨hnodup, hmem⟩ := ih (nodup_addNew hseen first)
    refine ⟨hnodup, fun item => (hmem item).trans ?_⟩
    rw [mem_addNew, List.mem_cons, or_assoc]

theorem nodup_dedup (items : List String) : (dedup items).Nodup :=
  List.nodup_reverse.mpr (foldl_addNew items .nil).1

theorem mem_dedup {items : List String} {item : String} : item ∈ dedup items ↔ item ∈ items := by
  have hmem := (foldl_addNew items .nil).2 item
  rw [List.mem_nil_iff, false_or] at hmem
  exact List.mem_reverse.trans hmem

/-- Imports are listed once, in every language. -/
theorem nodup_imports (l : Language) (text : String) : (l.imports text).Nodup := by
  cases l <;> exact nodup_dedup _

/-- **No import is empty**, in any language. -/
theorem ne_empty_of_mem_imports (l : Language) {text specifier : String}
    (h : specifier ∈ l.imports text) : specifier ≠ "" := by
  cases l with
  | script =>
    have hfound := mem_dedup.mp h
    simp only [List.mem_flatMap, List.mem_cons, List.not_mem_nil, or_false] at hfound
    obtain ⟨p, rfl | rfl | rfl, hmem⟩ := hfound
    · exact ne_empty_of_mem_capturesOf (p := Script.fromImport) rfl hmem
    · exact ne_empty_of_mem_capturesOf (p := Script.bareImport) rfl hmem
    · exact ne_empty_of_mem_capturesOf (p := Script.callImport) rfl hmem
  | python =>
    -- A module may be missing where its name is kept, and then it is left out.
    rintro rfl
    cases (List.mem_filter.mp (mem_dedup.mp h)).2
  | rust => exact ne_empty_of_mem_capturesOf (p := Rust.useLine) rfl (mem_dedup.mp h)

/-- That what a language extracts from a text is well formed. -/
structure WellFormed (l : Language) (text : String) : Prop where
  symbols : ∀ symbol ∈ l.symbols text,
    symbol ≠ "" ∧ ∀ x ∈ symbol.toList, Text.isBlank x = false
  nodup : (l.imports text).Nodup
  imports : "" ∉ l.imports text

theorem wellFormed (l : Language) (text : String) : WellFormed l text where
  symbols _ h := ⟨(isSymbol_of_mem_symbols l h).ne_empty, (isSymbol_of_mem_symbols l h).not_blank⟩
  nodup := nodup_imports l text
  imports h := ne_empty_of_mem_imports l h rfl

end Dossier.Extract
