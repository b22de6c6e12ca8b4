import Dossier.Selection.Select
import Dossier.Text.Blank

/-!
# Looking up references

While a file is being edited, a collaborator may know which files refer to it and which it refers
to. Together with the neighbours in the import graphs they are boosted for one selection, and the
edited file goes first. A collaborator that is missing, inactive or failing changes nothing beyond
the data that it does not give.
-/

set_option autoImplicit false

namespace Dossier

/-- A position in a file, counted from zero. -/
structure Position where
  line : UInt32
  character : UInt32
deriving DecidableEq, Repr, Inhabited

/-- The start of a file. -/
def Position.start : Position := ⟨0, 0⟩

/-- A question that was not answered. -/
inductive LookupFailure where
  | unavailable
deriving DecidableEq, Repr

/-- What a collaborator is asked. -/
inductive QueryKind where
  | references
  | definition
  | hover
deriving DecidableEq, Repr

/-- A question about a position in a file. -/
structure Query where
  kind : QueryKind
  file : String
  position : Position
deriving DecidableEq, Repr

/-- Someone who answers questions about positions in files. Files are reported in any spelling. -/
structure Collaborator where
  active : Bool
  references : String → Position → Except LookupFailure (List String)
  definition : String → Position → Except LookupFailure (List String)
  hover : String → Position → Except LookupFailure (Option String)

/-- A selection request around a file being edited. -/
structure LookupRequest where
  base : SelectionRequest := {}
  editingFile : Option String := none
  position : Option Position := none
  /-- What is added to the importance of related files. -/
  boost : Float := 0.3

/-- What the lookup contributed to a selection. -/
structure Enhancement where
  editingFile : Option String := none
  symbolAtCursor : Option String := none
  /-- Files that refer to the edited one. -/
  referencingFiles : List String := []
  /-- Files that the edited one refers to. -/
  dependencyFiles : List String := []
  /-- Related files that were selected. -/
  boostedFiles : List String := []

/-- Whether the lookup contributed nothing. -/
def Enhancement.isEmpty (e : Enhancement) : Bool :=
  e.editingFile.isNone && e.referencingFiles.isEmpty && e.dependencyFiles.isEmpty

/-- A selection, what the lookup contributed to it, and the questions that were asked. -/
structure EnhancedSelection where
  selection : Selection
  enhancement : Enhancement
  queries : List Query

namespace Lookup

/-- The text after a leading `head`; the whole text when it does not start with it. -/
def without (head cs : List Char) : List Char := (head.isPrefixOf? cs).getD cs

/-- What follows the root and a `/`; the whole path when it does not lie below the root. -/
def belowRoot (root path : List Char) : List Char :=
  match root.isPrefixOf? path with
  | some ('/' :: rest) => rest
  | _ => path

/-- The id that a reported file means: without a file scheme, the root, and leading `./`. -/
def locationId (root file : String) : String :=
  let path := without "file://".toList file.toList
  String.ofList (dropHere (belowRoot root.toList path))

/-- How a fence around code starts. -/
def fence : List Char := List.replicate 3 '\x60'

/-- The first line of a hover text that is neither blank nor a fence, without blanks around it. -/
def hoverSymbol (text : String) : Option String :=
  (((text.toList.splitOn '\n').map Text.trimBlanks).find? fun line =>
    !line.isEmpty && !(fence.isPrefixOf line)).map String.ofList

/--
The questions asked about a file: its references at the start and, if the cursor is elsewhere, at
the cursor; then the definition and the hover text at the cursor, if there is one.
-/
def queries (editing : String) (cursor : Option Position) : List Query :=
  let starts := Position.start :: (cursor.filter (· != .start)).toList
  starts.map (⟨.references, editing, ·⟩)
    ++ cursor.toList.flatMap fun at_ => [⟨.definition, editing, at_⟩, ⟨.hover, editing, at_⟩]

/-- The related files found so far. -/
structure Related where
  referencing : Std.TreeSet String := ∅
  dependencies : Std.TreeSet String := ∅
  symbol : Option String := none

/-- The ids of the reported files that are chunks, other than the edited file. -/
def kept (s : Snapshot) (editing : String) (files : List String) : List String :=
  (files.map (locationId s.root)).filter fun id => id != editing && s.chunks.contains id

/-- The related files after one more question was asked. A failure gives nothing. -/
def ask (s : Snapshot) (c : Collaborator) (r : Related) (q : Query) : Related :=
  match q.kind with
  | .references =>
    match c.references q.file q.position with
    | .ok files => { r with referencing := r.referencing.insertMany (kept s q.file files) }
    | .error _ => r
  | .definition =>
    match c.definition q.file q.position with
    | .ok files => { r with dependencies := r.dependencies.insertMany (kept s q.file files) }
    | .error _ => r
  | .hover =>
    match c.hover q.file q.position with
    | .ok text => { r with symbol := text.bind hoverSymbol }
    | .error _ => r

/-- The related files by what the collaborator answers and by the import graphs. -/
def related (s : Snapshot) (c : Collaborator) (editing : String) (cursor : Option Position) :
    Related :=
  let r := (queries editing cursor).foldl (ask s c) {}
  { r with
    referencing := r.referencing.insertMany (s.dependentsOf editing)
    dependencies := r.dependencies.insertMany (s.dependenciesOf editing) }

/-- The boosts of the related files. -/
def boosts (factor : Float) (r : Related) : Boosts :=
  Std.TreeMap.ofList ((r.referencing.toList ++ r.dependencies.toList).map (·, factor))

end Lookup

namespace LookupRequest

/-- The selection without any enhancement, after the given questions. -/
def plain (r : LookupRequest) (s : Snapshot) (asked : List Query) : EnhancedSelection :=
  ⟨r.base.run s, {}, asked⟩

/-- The selection around a file being edited. -/
def run (r : LookupRequest) (collaborator : Option Collaborator) (s : Snapshot) :
    EnhancedSelection :=
  match r.editingFile.map normalizeId, collaborator.filter (·.active) with
  | some editing, some c =>
    let asked := Lookup.queries editing r.position
    let related := Lookup.related s c editing r.position
    if related.referencing.isEmpty && related.dependencies.isEmpty then r.plain s asked
    else
      let boosts := Lookup.boosts r.boost related
      let selection := r.base.runWith boosts [editing] s
      { selection
        enhancement :=
          { editingFile := some editing
            symbolAtCursor := related.symbol
            referencingFiles := related.referencing.toList
            dependencyFiles := related.dependencies.toList
            boostedFiles := (selection.chunks.map (·.id)).filter boosts.contains }
        queries := asked }
  | _, _ => r.plain s []

end LookupRequest
end Dossier
