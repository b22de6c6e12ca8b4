import Dossier.Names

/-!
# Roles

The role that a file plays in its repository, from entry point to documentation, and the base score
that goes with it.
-/

set_option autoImplicit false

namespace Dossier

/-- The role of a file, in the order in which roles are listed. -/
inductive Role where
  | entryPoint
  | coreModule
  | utility
  | types
  | config
  | test
  | documentation
  | other
deriving DecidableEq, Repr, Inhabited

namespace Role

def all : List Role :=
  [.entryPoint, .coreModule, .utility, .types, .config, .test, .documentation, .other]

def name : Role → String
  | .entryPoint => "entry_point"
  | .coreModule => "core_module"
  | .utility => "utility"
  | .types => "types"
  | .config => "config"
  | .test => "test"
  | .documentation => "documentation"
  | .other => "other"

def ofName (text : String) : Except UnknownName Role := named .chunkType all name text

/-- The score before position and connectivity count. -/
def baseScore : Role → Float
  | .entryPoint => 0.9
  | .coreModule => 0.8
  | .types => 0.7
  | .config => 0.6
  | .utility => 0.5
  | .other => 0.4
  | .documentation => 0.3
  | .test => 0.2

end Role
end Dossier
