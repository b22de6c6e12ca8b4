import Dossier.Pattern.Marks

/-!
# Searching a text for a pattern

The parts of a pattern are tried in order of preference: an earlier alternative before a later one,
a longer run before a shorter one, a part before its absence. The first way that succeeds is the
match, and the matches of a text are taken from left to right without overlap.

It is known beforehand from which positions each part of the pattern, and all that has to come after
it, can succeed, so nothing is tried that fails later, and the cost of a search is the product of
the sizes of pattern and text.
-/

set_option autoImplicit false

namespace Dossier.Pattern

/-- A position in a text: the character before it, what follows it, and how much that is. -/
structure Cursor where
  before : Option Char
  rest : List Char
  left : Nat
deriving DecidableEq, Repr

/-- The start of a text. -/
def Cursor.start (cs : List Char) : Cursor := ⟨none, cs, cs.length⟩

/-- At the start of the text or just after a line break. -/
def Cursor.atLineStart (c : Cursor) : Bool := startsLine c.before

/-- Exactly one of the two neighbours is a word character. -/
def Cursor.atWordEdge (c : Cursor) : Bool := isWordEdge c.before c.rest.head?

/-- The position after the next character, when the set has it. -/
def Cursor.step? (s : CharSet) (c : Cursor) : Option Cursor :=
  match c.rest with
  | [] => none
  | x :: rest => if s.has x then some ⟨some x, rest, c.left - 1⟩ else none

/--
The positions reached through characters of the set, farthest first, in front of those in `nearer`.
-/
def runEnds (s : CharSet) (before : Option Char) (left : Nat) (nearer : List Cursor) :
    List Char → List Cursor
  | [] => ⟨before, [], left⟩ :: nearer
  | x :: rest =>
    if s.has x then runEnds s (some x) (left - 1) (⟨before, x :: rest, left⟩ :: nearer) rest
    else ⟨before, x :: rest, left⟩ :: nearer

/-- The positions after a run of characters of the set from a position, farthest first. -/
def Cursor.run (s : CharSet) (atLeastOne : Bool) (c : Cursor) : List Cursor :=
  if atLeastOne then
    match c.step? s with
    | none => []
    | some d => runEnds s d.before d.left [] d.rest
  else runEnds s c.before c.left [] c.rest

/-- The characters from one position to a later one. -/
def Cursor.textTo (c d : Cursor) : String := String.ofList (c.rest.take (c.left - d.left))

/-- The texts of the numbered parts of a match, the latest first. -/
abbrev Captures := List (Nat × String)

/-- The numbered parts so far: where the unfinished ones began, innermost first, and the others. -/
structure Trace where
  opened : List Cursor := []
  captures : Captures := []

/-- With a numbered part that begins. -/
def Trace.enter (t : Trace) (c : Cursor) : Trace := { t with opened := c :: t.opened }

/-- With the innermost part ended. -/
def Trace.leave (t : Trace) (n : Nat) (d : Cursor) : Trace :=
  match t.opened with
  | [] => t
  | c :: opened => ⟨opened, (n, c.textTo d) :: t.captures⟩

/-- The rest of a match: where it can succeed, and its first success from there. -/
structure Step (α : Type) where
  ready : Marks
  go : Cursor → Trace → Option α

namespace Step

/-- The first success from a position, if there can be one. -/
def attempt {α : Type} (s : Step α) (c : Cursor) (t : Trace) : Option α :=
  if s.ready.has c.left then s.go c t else none

/-- A pattern and then what comes after it, in a text that is given reversed. -/
def ofPattern {α : Type} (reversed : List Char) : Pattern → Step α → Step α
  | .empty, next => next
  | .lineStart, next =>
    ⟨next.ready.keep (fun before _ => startsLine before) reversed,
      fun c t => if c.atLineStart then next.attempt c t else none⟩
  | .wordEdge, next =>
    ⟨next.ready.keep isWordEdge reversed,
      fun c t => if c.atWordEdge then next.attempt c t else none⟩
  | .one s, next =>
    ⟨next.ready.before s reversed, fun c t => (c.step? s).bind fun d => next.attempt d t⟩
  | .run s atLeastOne, next =>
    let ready := next.ready.beforeRun s reversed
    ⟨if atLeastOne then ready.before s reversed else ready,
      fun c t => (c.run s atLeastOne).findSome? fun d => next.attempt d t⟩
  | .seq p q, next => ofPattern reversed p (ofPattern reversed q next)
  | .alt p q, next =>
    let first := ofPattern reversed p next
    let second := ofPattern reversed q next
    ⟨first.ready.union second.ready,
      fun c t => (first.attempt c t).or (second.attempt c t)⟩
  | .opt p, next =>
    let present := ofPattern reversed p next
    ⟨present.ready.union next.ready, fun c t => (present.attempt c t).or (next.attempt c t)⟩
  | .group n p, next =>
    let inner := ofPattern reversed p ⟨next.ready, fun d t => next.go d (t.leave n d)⟩
    ⟨inner.ready, fun c t => inner.go c (t.enter c)⟩

/-- The end of a match, wherever that is in a text of so many characters. -/
def done {α : Type} (length : Nat) (result : Cursor → Trace → α) : Step α :=
  ⟨.all length, fun c t => some (result c t)⟩

end Step

/-- A match from a position: where it ends, and its numbered parts. -/
abbrev Search := Step (Cursor × Captures)

/-- The search for a pattern in a text. -/
def searchIn (p : Pattern) (cs : List Char) : Search :=
  Step.ofPattern cs.reverse p (Step.done cs.length fun c t => (c, t.captures))

/--
The matches in what follows a position, from the first start that no more than `resume` characters
follow; each match resumes the search at its own end.
-/
def matchesFrom (search : Search) (resume : Nat) (before : Option Char) (left : Nat) :
    List Char → List Captures
  | [] => []
  | x :: rest =>
    if resume < left then matchesFrom search resume (some x) (left - 1) rest
    else
      match search.attempt ⟨before, x :: rest, left⟩ {} with
      | none => matchesFrom search resume (some x) (left - 1) rest
      | some (stop, found) => found :: matchesFrom search stop.left (some x) (left - 1) rest

/-- The matches of a pattern that consumes something, from left to right, without overlap. -/
def allMatches (p : Pattern) (text : String) : List Captures :=
  let cs := text.toList
  matchesFrom (searchIn p cs) cs.length none cs.length cs

/-- Whether the pattern matches somewhere in the text. -/
def occursIn (p : Pattern) (text : String) : Bool :=
  let cs := text.toList
  (Step.ofPattern cs.reverse p (Step.done cs.length fun _ _ => ())).ready.any

/-- The text of a numbered part, when it took part in the match. -/
def Captures.text? (found : Captures) (n : Nat) : Option String := found.lookup n

/-- The texts of part `n` of all matches that have it, in order. -/
def capturesOf (p : Pattern) (n : Nat) (text : String) : List String :=
  (allMatches p text).filterMap (Captures.text? · n)

end Dossier.Pattern
