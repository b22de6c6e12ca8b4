import Dossier.Text.Quoted

/-!
# Names

The roles, strategies and directions have written names. A text that is none of them is an unknown
name, which remembers what was looked for.
-/

set_option autoImplicit false

namespace Dossier

/-- What a name can be the name of. -/
inductive NameKind where
  | chunkType
  | strategy
  | direction
deriving DecidableEq, Repr

/-- A text that names nothing of its kind. -/
structure UnknownName where
  kind : NameKind
  text : String
deriving DecidableEq, Repr

/-- The kind in words. -/
def NameKind.words : NameKind → String
  | .chunkType => "chunk type"
  | .strategy => "selection strategy"
  | .direction => "expansion direction"

/-- The report of an unknown name quotes it. -/
def UnknownName.message (e : UnknownName) : String :=
  "unknown " ++ e.kind.words ++ ": " ++ Text.quoted e.text

/-- The value among `all` that has the name. -/
def named {α : Type} (kind : NameKind) (all : List α) (name : α → String) (text : String) :
    Except UnknownName α :=
  match all.find? (name · == text) with
  | some value => .ok value
  | none => .error ⟨kind, text⟩

end Dossier
