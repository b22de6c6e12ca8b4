import Dossier.Names

/-!
# Strategies and directions

How candidates are ordered before they are packed, and which import edges an expansion follows.
-/

set_option autoImplicit false

namespace Dossier

/-- The order in which candidates are offered to the budget. -/
inductive Strategy where
  | importanceFirst
  | relevanceFirst
  | breadthFirst
  | depthFirst
deriving DecidableEq, Repr

namespace Strategy

def all : List Strategy := [.importanceFirst, .relevanceFirst, .breadthFirst, .depthFirst]

def name : Strategy → String
  | .importanceFirst => "importance_first"
  | .relevanceFirst => "relevance_first"
  | .breadthFirst => "breadth_first"
  | .depthFirst => "depth_first"

def ofName (text : String) : Except UnknownName Strategy := named .strategy all name text

end Strategy

/-- The import edges that an expansion follows. -/
inductive Direction where
  | dependencies
  | dependents
  | both
deriving DecidableEq, Repr

namespace Direction

def all : List Direction := [.dependencies, .dependents, .both]

def name : Direction → String
  | .dependencies => "dependencies"
  | .dependents => "dependents"
  | .both => "both"

def ofName (text : String) : Except UnknownName Direction := named .direction all name text

end Direction
end Dossier
