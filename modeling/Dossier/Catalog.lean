import Dossier.Chunk
import Std.Data.TreeMap

/-!
# Catalogs

The chunks of a repository, each stored under its own id, in ascending order of ids. Ids are ordered
by their code points.
-/

set_option autoImplicit false

namespace Dossier

structure Catalog where
  byId : Std.TreeMap String Chunk
  keyed : ∀ (id : String) (c : Chunk), byId[id]? = some c → c.id = id

namespace Catalog

def empty : Catalog where
  byId := ∅
  keyed := by simp

instance : Inhabited Catalog := ⟨empty⟩

/-- With one more chunk, in place of an earlier one of the same id. -/
def insert (k : Catalog) (c : Chunk) : Catalog where
  byId := k.byId.insert c.id c
  keyed := by
    intro id d h
    rw [Std.TreeMap.getElem?_insert] at h
    split at h
    · next same =>
      cases h
      exact Std.LawfulEqCmp.eq_of_compare same
    · exact k.keyed id d h

/-- The catalog of a list of chunks; a later chunk replaces an earlier one of the same id. -/
def ofList (cs : List Chunk) : Catalog := cs.foldl insert empty

def get? (k : Catalog) (id : String) : Option Chunk := k.byId[id]?

def contains (k : Catalog) (id : String) : Bool := k.byId.contains id

/-- The chunks in ascending order of their ids. -/
def toList (k : Catalog) : List Chunk := k.byId.values

def ids (k : Catalog) : List String := k.byId.keys

def size (k : Catalog) : Nat := k.byId.size

end Catalog
end Dossier
