/-!
# JSON values

What a reply for other programs is made of. The members of an object keep their order.
-/

set_option autoImplicit false

namespace Dossier

/-- A JSON value. -/
inductive Json where
  | null
  | natural (n : Nat)
  | number (x : Float)
  | string (s : String)
  | array (elements : List Json)
  | object (members : List (String × Json))
deriving Inhabited

namespace Json

/-- A word as a number. -/
def word (n : UInt32) : Json := .natural n.toNat

/-- A list of texts. -/
def strings (xs : List String) : Json := .array (xs.map .string)

end Json
end Dossier
