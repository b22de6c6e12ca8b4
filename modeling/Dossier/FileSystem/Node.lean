import Dossier.FileSystem.Fault

/-!
# File trees

What a file system holds: files with their bytes, directories with named entries, and links to
paths. A name need not be text. What an entry is, its facts, and what it holds are three things to
ask for, and each of them may be refused; the tree says which are, and why. A listing may come in
any order; `Node.replace` and `Node.remove?` change one place of a tree.
-/

set_option autoImplicit false

namespace Dossier

/-- The name of an entry: text, or bytes that are none. -/
inductive FileName where
  | text (name : String)
  | bytes (name : List UInt8) (h : String.fromUTF8? name.toByteArray = none)
deriving DecidableEq

namespace FileName

/-- The number of bytes. -/
def size : FileName → Nat
  | .text name => name.utf8ByteSize
  | .bytes name _ => name.length

end FileName

/-- What the system refuses about an entry; a fault says why. -/
structure Access where
  /-- To say whether it is a file, a directory or a link. -/
  kind : Option Fault := none
  /-- To give its size, and what else is known of it without reading it. -/
  facts : Option Fault := none
  /-- To read a file, or to list a directory. -/
  contents : Option Fault := none
deriving DecidableEq, Repr, Inhabited

inductive Node where
  | file (access : Access) (bytes : ByteArray)
  | directory (access : Access) (entries : List (FileName × Node))
  | link (target : String)
deriving Inhabited

namespace Node

def emptyDirectory : Node := .directory {} []

def isDirectory : Node → Bool
  | .directory .. => true
  | _ => false

/-- What is refused about a node; nothing about a link, which nobody asks to be read. -/
def access : Node → Access
  | .file access _ => access
  | .directory access _ => access
  | .link _ => {}

/-- The entries of a directory; none for anything else. -/
def entries : Node → List (FileName × Node)
  | .directory _ es => es
  | _ => []

mutual

def size : Node → Nat
  | .file .. => 1
  | .directory _ es => 1 + sizeOfEntries es
  | .link _ => 1

def sizeOfEntries : List (FileName × Node) → Nat
  | [] => 0
  | (_, n) :: rest => n.size + sizeOfEntries rest

end

/-- The size of all nodes of a listing, whatever they go by. -/
def totalSize {α : Type} (es : List (α × Node)) : Nat := es.foldr (fun e n => e.2.size + n) 0

theorem sizeOfEntries_eq (es : List (FileName × Node)) : sizeOfEntries es = totalSize es := by
  induction es with
  | nil => rfl
  | cons e es ih =>
    rw [sizeOfEntries, ih]
    rfl

theorem totalSize_cons {α : Type} (e : α × Node) (es : List (α × Node)) :
    totalSize (e :: es) = e.2.size + totalSize es := rfl

theorem totalSize_perm {α : Type} {es fs : List (α × Node)} (h : es.Perm fs) :
    totalSize es = totalSize fs := by
  induction h with
  | nil => rfl
  | cons e _ ih => simp only [totalSize_cons, ih]
  | swap e f es => simp only [totalSize_cons, Nat.add_left_comm]
  | trans _ _ ih₁ ih₂ => exact ih₁.trans ih₂

theorem totalSize_filter_le {α : Type} (p : α × Node → Bool) (es : List (α × Node)) :
    totalSize (es.filter p) ≤ totalSize es := by
  induction es with
  | nil => exact Nat.le_refl _
  | cons e es ih =>
    rw [List.filter_cons]
    split <;> simp only [totalSize_cons] <;> omega

theorem totalSize_map_name {α β : Type} (f : α → β) (es : List (α × Node)) :
    totalSize (es.map fun (name, n) => (f name, n)) = totalSize es := by
  simp only [totalSize, List.foldr_map]

/-- An entry whose name is text, by this text. -/
def textEntry? : FileName × Node → Option (String × Node)
  | (.text name, n) => some (name, n)
  | (.bytes .., _) => none

/-- The entries whose names are text, in the order of their names. -/
def textEntries (es : List (FileName × Node)) : List (String × Node) :=
  (es.filterMap textEntry?).mergeSort fun x y => x.1 ≤ y.1

theorem totalSize_textEntries_le (es : List (FileName × Node)) :
    totalSize (textEntries es) ≤ totalSize es := by
  refine Nat.le_trans (Nat.le_of_eq (totalSize_perm (List.mergeSort_perm _ _))) ?_
  induction es with
  | nil => exact Nat.le_refl _
  | cons e es ih =>
    obtain ⟨name, n⟩ := e
    cases name with
    | text name =>
      simp only [List.filterMap_cons, textEntry?, totalSize_cons]
      omega
    | bytes name h =>
      simp only [List.filterMap_cons, textEntry?, totalSize_cons]
      omega

def at? (n : Node) : List FileName → Option Node
  | [] => some n
  | name :: rest => (n.entries.lookup name).bind fun below => below.at? rest

/-- A listing with a node under a name, in place of an earlier one. -/
def withEntry (name : FileName) (n : Node) (es : List (FileName × Node)) : List (FileName × Node) :=
  es.filter (fun (other, _) => other != name) ++ [(name, n)]

/-- A tree with a node at a path of names; missing directories on the way are made. -/
def replace (n : Node) : List FileName → Node → Node
  | [], new => new
  | name :: rest, new =>
    let below := (n.entries.lookup name).getD emptyDirectory
    .directory n.access (withEntry name (below.replace rest new) n.entries)

/-- A tree without the node at a path of names; none if there is no such node. -/
def remove? (n : Node) : List FileName → Option Node
  | [] => none
  | [name] =>
    if (n.entries.lookup name).isSome then
      some (.directory n.access (n.entries.filter fun (other, _) => other != name))
    else none
  | name :: rest => do
    let below ← n.entries.lookup name
    return .directory n.access (withEntry name (← below.remove? rest) n.entries)

end Node
end Dossier
