/-!
# Values of a TOML document

Values as a document holds them. A table remembers how it came about, and an array whether headers
add to it, because that decides what later lines may still add: a table is opened by a header at
most once, dotted keys extend only what no header opened, and inline tables are closed.
-/

set_option autoImplicit false

namespace Dossier.Toml

inductive TableKind where
  /-- By a header of its own; the document itself counts as one. -/
  | opened
  /-- On the way to another header. -/
  | implied
  /-- By a dotted key, or on the way to another header and then extended by a dotted key. -/
  | dotted
  /-- Between braces. -/
  | inline
deriving DecidableEq, Repr

/-- A value; tables list their entries in the order in which the keys first came. -/
inductive Value where
  | string (s : String)
  | integer (n : Int)
  | float (x : Float)
  /-- What is written like a number and stands for none: too large, or with a digit of no base. -/
  | invalidNumber
  | boolean (b : Bool)
  /-- A date, a time, or both. -/
  | moment
  /-- With whether every header of its name adds one more table. -/
  | array (grows : Bool) (elements : List Value)
  | table (kind : TableKind) (entries : List (String × Value))
deriving Inhabited

abbrev Entries := List (String × Value)

/-- The entries with a value under a key, in place of an earlier one. -/
def Entries.put (key : String) (v : Value) : Entries → Entries
  | [] => [(key, v)]
  | (k, w) :: rest => if k = key then (k, v) :: rest else (k, w) :: Entries.put key v rest

mutual

/-- Whether every number in the value is one. -/
def Value.isValid : Value → Bool
  | .invalidNumber => false
  | .array _ elements => allValid elements
  | .table _ entries => entriesValid entries
  | _ => true

/-- Whether this holds of every element. -/
def allValid : List Value → Bool
  | [] => true
  | v :: rest => v.isValid && allValid rest

/-- Whether this holds of every entry. -/
def entriesValid : List (String × Value) → Bool
  | [] => true
  | (_, v) :: rest => v.isValid && entriesValid rest

end

/-- How deep a document may nest: arrays and inline tables in each other, or keys on a path. -/
def maxDepth : Nat := 80

/--
The kind of a table that is on the path of a key or of a header, unless it may not be entered. A
dotted key does not enter a table that a header opened, and makes an implied one its own; nothing
enters an inline table.
-/
def TableKind.entered? (dotted : Bool) : TableKind → Option TableKind
  | .opened => if dotted then none else some .opened
  | .implied => some (if dotted then .dotted else .implied)
  | .dotted => some .dotted
  | .inline => none

/--
An edit of the table at the end of a path, which starts in the given table. Missing tables are made
on the way, by a dotted key or by a header; an array that headers add to stands for its last table.
-/
def Entries.within (dotted : Bool) (edit : TableKind → Entries → Option Entries) :
    List String → TableKind → Entries → Option Entries
  | [], kind, entries => edit kind entries
  | key :: path, _, entries =>
    match entries.lookup key with
    | none =>
      let made := if dotted then TableKind.dotted else .implied
      (Entries.within dotted edit path made []).map fun sub => entries.put key (.table made sub)
    | some (.table kind sub) =>
      match kind.entered? dotted with
      | none => none
      | some kind =>
        (Entries.within dotted edit path kind sub).map fun sub => entries.put key (.table kind sub)
    | some (.array true elements) =>
      match elements.getLast? with
      | some (.table kind sub) =>
        (Entries.within dotted edit path kind sub).map fun sub =>
          entries.put key (.array true (elements.dropLast ++ [.table kind sub]))
      | _ => none
    | some _ => none

/-- An edit of the table at the end of a path that is not too deep. -/
def Entries.edit (dotted : Bool) (change : TableKind → Entries → Option Entries)
    (path : List String) (kind : TableKind) (entries : Entries) : Option Entries :=
  if maxDepth ≤ path.length then none else entries.within dotted change path kind

/-- The entries with a value under a dotted key, which must be new. -/
def Entries.assign (path : List String) (key : String) (v : Value) (kind : TableKind)
    (entries : Entries) : Option Entries :=
  entries.edit true
    (fun kind entries =>
      if (kind == .dotted) == path.isEmpty then none
      else if (entries.lookup key).isSome then none
      else some (entries.put key v))
    path kind

/-- The entries with the table of a header opened; it may have been implied before. -/
def Entries.openTable (path : List String) (key : String) (entries : Entries) : Option Entries :=
  entries.edit false
    (fun _ entries =>
      match entries.lookup key with
      | none => some (entries.put key (.table .opened []))
      | some (.table .implied sub) => some (entries.put key (.table .opened sub))
      | some _ => none)
    path .opened

/-- The entries with one more table in the array of a header. -/
def Entries.appendTable (path : List String) (key : String) (entries : Entries) : Option Entries :=
  entries.edit false
    (fun _ entries =>
      match entries.lookup key with
      | none => some (entries.put key (.array true [.table .opened []]))
      | some (.array true elements) =>
        some (entries.put key (.array true (elements ++ [.table .opened []])))
      | some _ => none)
    path .opened

end Dossier.Toml
