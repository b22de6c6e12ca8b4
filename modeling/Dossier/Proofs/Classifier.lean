import Dossier.Classifier
import Dossier.Proofs.Pattern.Language
import Dossier.Proofs.Pattern.Occurrence

/-!
# What the content of a file decides

A role is given by the first rule that applies, and one rule only looks at the content: it makes
types of a file that declares interfaces and no functions. What this asks of a content is read off
what its two patterns take: the word `interface` with blanks and the start of a name behind it
(`occursIn_interfaceHead_iff`), and the word `function` (`occursIn_functionWord_iff`). So a path
alone settles the role of a file, or it leaves one thing for the content to decide: whether the role
is types instead (**`classify_content`**).
-/

set_option autoImplicit false

namespace Dossier

namespace Pattern

/-! ## Words in a text -/

theorem takes_seq_iff {p q : Pattern} {u v t : List Char} :
    Takes (.seq p q) u v t ↔ ∃ x y, v = x ++ y ∧ Takes p u x (y ++ t) ∧ Takes q (u ++ x) y t := by
  constructor
  · intro h
    cases h with
    | seq hp hq => exact ⟨_, _, rfl, hp, hq⟩
  · rintro ⟨x, y, rfl, hp, hq⟩
    exact .seq hp hq

/-- What is taken from a word edge on. -/
theorem takes_wordEdge_seq_iff {q : Pattern} {u v t : List Char} :
    Takes (.seq .wordEdge q) u v t ↔
      isWordEdge u.getLast? (v ++ t).head? = true ∧ Takes q u v t := by
  rw [takes_seq_iff]
  constructor
  · rintro ⟨x, y, rfl, hx, hq⟩
    cases hx with
    | wordEdge hedge =>
      rw [List.append_nil] at hq
      exact ⟨hedge, hq⟩
  · rintro ⟨hedge, hq⟩
    exact ⟨[], v, rfl, .wordEdge hedge, by rwa [List.append_nil]⟩

theorem hasLanguage_literal (s : String) : HasLanguage (literal s) {s.toList} := by
  unfold literal
  induction s.toList with
  | nil => exact hasLanguage_empty
  | cons c cs ih =>
    have hone : HasLanguage (.one (.only c)) (oneChar (· = c)) :=
      hasLanguage_one fun x => beq_iff_eq
    intro u v t
    rw [List.foldr_cons, hone.seq ih u v t, Language.mem_mul]
    constructor
    · rintro ⟨-, ⟨-, rfl, rfl⟩, -, rfl, rfl⟩
      rfl
    · rintro rfl
      exact ⟨[c], ⟨c, rfl, rfl⟩, cs, rfl, rfl⟩

/-- What is taken from a literal text on. -/
theorem takes_literal_seq_iff {text : String} {q : Pattern} {u v t : List Char} :
    Takes (.seq (literal text) q) u v t ↔
      ∃ y, v = text.toList ++ y ∧ Takes q (u ++ text.toList) y t := by
  rw [takes_seq_iff]
  constructor
  · rintro ⟨x, y, rfl, hx, hq⟩
    obtain rfl : x = text.toList := (hasLanguage_literal text _ _ _).mp hx
    exact ⟨y, rfl, hq⟩
  · rintro ⟨y, rfl, hq⟩
    exact ⟨_, y, rfl, (hasLanguage_literal text _ _ _).mpr rfl, hq⟩

/-- What is taken by some blanks and one character of a set. -/
theorem takes_someBlanks_one_iff {s : CharSet} {u v t : List Char} :
    Takes (sequence [someBlanks, .one s]) u v t ↔
      ∃ gap c, v = gap ++ [c] ∧ gap ≠ [] ∧ (∀ x ∈ gap, Text.isBlank x = true) ∧
        s.has c = true := by
  show Takes (.seq (.run .blank true) (.seq (.one s) .empty)) u v t ↔ _
  rw [takes_seq_iff]
  constructor
  · rintro ⟨gap, y, rfl, hrun, hy⟩
    cases hrun with
    | run hgap hne =>
      cases hy with
      | seq hone hempty =>
        cases hone with
        | one hc =>
          cases hempty
          exact ⟨gap, _, rfl, hne rfl, hgap, hc⟩
  · rintro ⟨gap, c, rfl, hne, hgap, hc⟩
    exact ⟨gap, [c], rfl, .run hgap fun _ => hne, .seq (v := [c]) (.one hc) (.empty _ _)⟩

theorem isWordEdge_some_right {before : Option Char} {c : Char} (hc : Text.isWord c = true) :
    isWordEdge before (some c) = true ↔ before.any Text.isWord = false := by
  simp [isWordEdge, hc]

theorem isWordEdge_some_left {after : Option Char} {c : Char} (hc : Text.isWord c = true) :
    isWordEdge (some c) after = true ↔ after.any Text.isWord = false := by
  simp [isWordEdge, hc]

end Pattern

namespace Classifier

open Pattern

/-! ## What the patterns say of a content -/

/-- The character can be the first one of a name. -/
def StartsName (c : Char) : Prop :=
  'A' ≤ c ∧ c ≤ 'Z' ∨ 'a' ≤ c ∧ c ≤ 'z' ∨ c = '_' ∨ c = '$'

/-- Somewhere in the text stands the word `interface`, no part of a longer word on its left, then
blanks, at least one, and then the first character of a name. -/
def DeclaresInterface (text : List Char) : Prop :=
  ∃ front gap c back, text = front ++ ("interface".toList ++ (gap ++ c :: back)) ∧
    front.getLast?.any Text.isWord = false ∧ gap ≠ [] ∧ (∀ x ∈ gap, Text.isBlank x = true) ∧
    StartsName c

/-- Somewhere in the text stands the word `function`, and it is no part of a longer word. -/
def HasFunction (text : List Char) : Prop :=
  ∃ front back, text = front ++ ("function".toList ++ back) ∧
    front.getLast?.any Text.isWord = false ∧ back.head?.any Text.isWord = false

theorem has_nameStart {c : Char} :
    (CharSet.union (.union (.range 'A' 'Z') (.range 'a' 'z')) (.ofList ['_', '$'])).has c = true ↔
      StartsName c := by
  simp [CharSet.has, CharSet.ofList, StartsName, or_assoc]

theorem takes_interfaceHead_iff {u v t : List Char} :
    Takes interfaceHead u v t ↔ u.getLast?.any Text.isWord = false ∧
      ∃ gap c, v = "interface".toList ++ (gap ++ [c]) ∧ gap ≠ [] ∧
        (∀ x ∈ gap, Text.isBlank x = true) ∧ StartsName c := by
  have hword : Text.isWord 'i' = true := by decide +kernel
  show Takes (.seq .wordEdge (.seq (literal "interface") (sequence [someBlanks, .one _]))) u v t ↔ _
  rw [takes_wordEdge_seq_iff, takes_literal_seq_iff]
  simp only [takes_someBlanks_one_iff, has_nameStart]
  constructor
  · rintro ⟨hedge, -, rfl, gap, c, rfl, hgap⟩
    exact ⟨(isWordEdge_some_right hword).mp hedge, gap, c, rfl, hgap⟩
  · rintro ⟨hfront, gap, c, rfl, hgap⟩
    exact ⟨(isWordEdge_some_right hword).mpr hfront, _, rfl, gap, c, rfl, hgap⟩

/-- The first pattern finds what declares an interface. -/
theorem occursIn_interfaceHead_iff {content : String} :
    occursIn interfaceHead content = true ↔ DeclaresInterface content.toList := by
  rw [occursIn_iff]
  simp only [takes_interfaceHead_iff]
  constructor
  · rintro ⟨front, -, back, htext, hfront, gap, c, rfl, hgap⟩
    refine ⟨front, gap, c, back, ?_, hfront, hgap⟩
    rw [← htext, List.append_assoc, List.append_assoc, List.singleton_append]
  · rintro ⟨front, gap, c, back, htext, hfront, hgap⟩
    refine ⟨front, _, back, ?_, hfront, gap, c, rfl, hgap⟩
    rw [htext, List.append_assoc, List.append_assoc, List.singleton_append]

theorem takes_functionWord_iff {u v t : List Char} :
    Takes functionWord u v t ↔ v = "function".toList ∧ u.getLast?.any Text.isWord = false ∧
      t.head?.any Text.isWord = false := by
  have hfirst : Text.isWord 'f' = true := by decide +kernel
  have hlast : Text.isWord 'n' = true := by decide +kernel
  have hend : (u ++ "function".toList).getLast? = some 'n' := by
    rw [List.getLast?_append]
    rfl
  show Takes (.seq .wordEdge (.seq (literal "function") (.seq .wordEdge .empty))) u v t ↔ _
  rw [takes_wordEdge_seq_iff, takes_literal_seq_iff]
  simp only [takes_wordEdge_seq_iff, takes_empty_iff, and_true, hend]
  constructor
  · rintro ⟨hfront, -, rfl, hback, rfl⟩
    exact ⟨rfl, (isWordEdge_some_right hfirst).mp hfront, (isWordEdge_some_left hlast).mp hback⟩
  · rintro ⟨rfl, hfront, hback⟩
    exact ⟨(isWordEdge_some_right hfirst).mpr hfront, [], rfl,
      (isWordEdge_some_left hlast).mpr hback, rfl⟩

/-- The second pattern finds the word, and nothing else. -/
theorem occursIn_functionWord_iff {content : String} :
    occursIn functionWord content = true ↔ HasFunction content.toList := by
  rw [occursIn_iff]
  simp only [takes_functionWord_iff]
  constructor
  · rintro ⟨u, v, t, htext, rfl, hfront, hback⟩
    exact ⟨u, t, htext.symm, hfront, hback⟩
  · rintro ⟨u, t, htext, hfront, hback⟩
    exact ⟨u, _, t, htext.symm, rfl, hfront, hback⟩

/-! ## Roles -/

variable (k : Classifier) (path : String)

/-- The role that a path gets from the rules behind the one that looks at the content. -/
def lateRole : Role :=
  let lower := Text.lowercase ("/" ++ path)
  if hasAny lower ["config", "settings"] || endsWith lower ".json" then .config
  else if endsWith lower ".md" || endsWith lower ".txt" then .documentation
  else if hasAny lower ["/utils/", "/helpers/", "/lib/"] then .utility
  else if anyAccepts k.coreModules path then .coreModule
  else .other

/-- The roles that leave nothing for the content to decide. -/
def IsSettled (r : Role) : Prop := r = .entryPoint ∨ r = .test ∨ r = .types

instance (r : Role) : Decidable (IsSettled r) := inferInstanceAs (Decidable (_ ∨ _ ∨ _))

theorem not_isSettled_lateRole : ¬ IsSettled (k.lateRole path) := by
  unfold lateRole
  dsimp only
  split_ifs <;> decide

theorem declaresTypesOnly_empty : declaresTypesOnly "" = false := by decide +kernel

theorem declaresTypesOnly_iff {content : String} : declaresTypesOnly content = true ↔
    DeclaresInterface content.toList ∧ ¬ HasFunction content.toList := by
  rw [declaresTypesOnly, Bool.and_eq_true, Bool.not_eq_true', ← Bool.not_eq_true,
    occursIn_interfaceHead_iff, occursIn_functionWord_iff]

/-- The role of a file is the one of its path, or types where the path leaves that open. -/
theorem classify_eq (content : String) : k.classify path content =
    if IsSettled (k.classify path "") then k.classify path ""
    else if declaresTypesOnly content then .types else k.classify path "" := by
  -- The content stands in one place of the cascade, in front of the late roles.
  have hcascade (text : String) : k.classify path text =
      if anyAccepts k.entryPoints path then .entryPoint
      else if hasAny (Text.lowercase ("/" ++ path))
        [".test.", ".spec.", "__tests__", "/test/"] then .test
      else if Text.holds (Text.lowercase ("/" ++ path)) "/types" ||
        endsWith (Text.lowercase ("/" ++ path)) ".d.ts" || declaresTypesOnly text then .types
      else k.lateRole path := rfl
  rw [hcascade, hcascade, declaresTypesOnly_empty, Bool.or_false]
  generalize hasAny _ _ = isTest
  generalize (Text.holds _ _ || endsWith _ _) = isTypes
  generalize anyAccepts k.entryPoints path = isEntry
  have hlate := k.not_isSettled_lateRole path
  generalize k.lateRole path = late at hlate ⊢
  cases isEntry with
  | true => rfl
  | false =>
    cases isTest with
    | true => rfl
    | false =>
      cases isTypes with
      | true => rfl
      | false =>
        simp only [Bool.false_or, Bool.false_eq_true, if_false]
        rw [if_neg hlate]

/-- **The content of a file can only make types of it.** It changes nothing where the path makes an
entry point, a test or types; elsewhere it makes types exactly if it declares interfaces and has no
functions. -/
theorem classify_content (content other : String) :
    (k.classify path content = k.classify path "" ∨ k.classify path content = .types) ∧
    (IsSettled (k.classify path "") → k.classify path content = k.classify path other) ∧
    (¬ IsSettled (k.classify path "") → (k.classify path content = .types ↔
      DeclaresInterface content.toList ∧ ¬ HasFunction content.toList)) := by
  rw [← declaresTypesOnly_iff]
  refine ⟨?_, fun hsettled => ?_, fun hopen => ?_⟩
  · rw [classify_eq k path content]
    split_ifs
    · exact .inl rfl
    · exact .inr rfl
    · exact .inl rfl
  · rw [classify_eq k path content, classify_eq k path other, if_pos hsettled, if_pos hsettled]
  · have htypes : k.classify path "" ≠ .types := fun h => hopen (.inr (.inr h))
    rw [classify_eq k path content, if_neg hopen]
    split_ifs with h
    · exact iff_of_true rfl h
    · exact iff_of_false htypes h

/-- The classifier of sources with tests and nothing else of note. -/
def samplePlain : Classifier := ⟨[], []⟩

/-- A test stays one, and another source is made types by the interface that it declares. -/
theorem classify_content_samplePlain :
    IsSettled (samplePlain.classify "user.test.ts" "") ∧
    samplePlain.classify "user.test.ts" "interface User {}" =
      samplePlain.classify "user.test.ts" "function user() {}" ∧
    ¬ IsSettled (samplePlain.classify "user.ts" "") ∧
    DeclaresInterface "interface User {}".toList ∧ ¬ HasFunction "interface User {}".toList ∧
    samplePlain.classify "user.ts" "interface User {}" = .types := by
  have hsettled : IsSettled (samplePlain.classify "user.test.ts" "") := by decide +kernel
  have hopen : ¬ IsSettled (samplePlain.classify "user.ts" "") := by decide +kernel
  obtain ⟨hinterface, hfunction⟩ :=
    declaresTypesOnly_iff.mp (by decide +kernel : declaresTypesOnly "interface User {}" = true)
  obtain ⟨-, hsame, -⟩ :=
    classify_content samplePlain "user.test.ts" "interface User {}" "function user() {}"
  obtain ⟨-, -, htypes⟩ := classify_content samplePlain "user.ts" "interface User {}" ""
  exact ⟨hsettled, hsame hsettled, hopen, hinterface, hfunction,
    (htypes hopen).mpr ⟨hinterface, hfunction⟩⟩

end Classifier
end Dossier
