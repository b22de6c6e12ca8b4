import Dossier.Search.Ranking
import Dossier.Selection.Assembly
import Dossier.Selection.Expansion
import Dossier.Selection.Lookup
import Dossier.Session.Store
import Dossier.Settings.Validation

/-!
# Sessions

Usable settings, one root, and a store: everything that can be asked of a repository. Every question
is asked of the snapshot of the root, and that there is none is the only way in which it can fail.
Only the text of what was selected is made without a snapshot.
-/

set_option autoImplicit false

namespace Dossier

/-- Settings in use for one root. -/
structure Session where
  settings : Settings
  root : String
  store : Store

namespace Session

/-- A session with the settings, if they are usable, when the clock shows `now`. -/
def ofSettings (s : Settings) (now : Nat) : Except Unusable Session := do
  s.validate
  return ⟨s, s.analyzer.root, .ofSettings s now⟩

/-- The report when the settings of a session are not usable. -/
def refusal (u : Unusable) : String :=
  "invalid configuration: " ++ (SettingsError.unusable u).message

/-- With another root. -/
def withRoot (s : Session) (root : String) : Session := { s with root }

/-- The selection request that the settings make. -/
def selectionRequest (s : Session) : SelectionRequest := s.settings.selection.request

/-- The search options that the settings make. -/
def searchOptions (s : Session) : SearchOptions := s.settings.search.options

/-- What a question is answered by: the answer or why there is none, and the session after it. -/
abbrev Answer (α : Type) := Except Interruption α × Session

/-- The snapshot of the root. -/
def analyze (s : Session) (locate : Locator) : Answer Edition :=
  let (result, store) := s.store.analyze s.root (locate s.root)
  (result, { s with store })

/-- The answer to a question about the snapshot of the root. -/
def ask {α : Type} (s : Session) (locate : Locator) (question : Snapshot → α) : Answer α :=
  let (result, s) := s.analyze locate
  (result.map fun e => question e.snapshot, s)

/-- A selection from the snapshot. -/
def select (s : Session) (locate : Locator) (r : SelectionRequest) : Answer Selection :=
  s.ask locate r.run

/-- A selection around a file being edited. -/
def lookup (s : Session) (locate : Locator) (r : LookupRequest)
    (collaborator : Option Collaborator) : Answer EnhancedSelection :=
  s.ask locate (r.run collaborator)

/-- What a query finds, ascending by id. -/
def search (s : Session) (locate : Locator) (o : SearchOptions) (query : String) :
    Answer (List Chunk) :=
  s.ask locate (Dossier.search o query)

/-- What a query finds, the best first. -/
def searchRanked (s : Session) (locate : Locator) (o : SearchOptions) (query : String) :
    Answer (List ScoredChunk) :=
  s.ask locate (Dossier.searchRanked o query)

/-- The neighbours of the selected ids. -/
def expand (s : Session) (locate : Locator) (r : ExpansionRequest) (selected : List String) :
    Answer Expansion :=
  s.ask locate (r.run selected)

/-- The text of chunks up to a ceiling. -/
def assemble (s : Session) (maxTokens : UInt32) (cs : List Chunk) : Except Interruption String :=
  match assemble? s.store.analyzer.estimator maxTokens cs with
  | some text => .ok text
  | none => .error .countOverflow

/-- Whether a snapshot of the root was kept, and the session without it. -/
def invalidate (s : Session) (locate : Locator) : Bool × Session :=
  let (had, store) := s.store.invalidate (locate s.root)
  (had, { s with store })

/-- Without any kept snapshot. -/
def clear (s : Session) : Session := { s with store := s.store.clear }

/-- At a later time. -/
def advance (s : Session) (nanos : Nat) : Session := { s with store := s.store.advance nanos }

end Session
end Dossier
