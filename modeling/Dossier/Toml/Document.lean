import Dossier.Toml.Number
import Dossier.Toml.Text

/-!
# Reading a TOML document

A document is a sequence of lines: headers, which open tables or add one to an array of tables, and
entries of the table opened last. Reading either gives the entries of the whole document or fails.
-/

set_option autoImplicit false

namespace Dossier.Toml

/-- A character that ends a bare word. -/
def endsWord (c : Char) : Bool :=
  isLineBlank c || ['\n', '\r', ',', '=', '[', ']', '\x7b', '\x7d', '#'].contains c

/-- A bare word; a date may be followed by a blank and a time. -/
def readWord (cs : List Char) : Option (Value × List Char) :=
  let word := cs.takeWhile fun c => !endsWord c
  let rest := cs.dropWhile fun c => !endsWord c
  let (word, rest) := match rest with
    | ' ' :: d :: more =>
      if isDate word && d.isDigit then
        (word ++ ' ' :: (d :: more).takeWhile (fun c => !endsWord c),
          (d :: more).dropWhile fun c => !endsWord c)
      else (word, rest)
    | _ => (word, rest)
  (wordValue? word).map (·, rest)

mutual

/--
A value, with at most `depth` arrays and inline tables inside each other. `fuel` bounds the number
of parts; the length of the text always suffices.
-/
def readValue (fuel depth : Nat) (cs : List Char) : Option (Value × List Char) :=
  match fuel with
  | 0 => none
  | fuel + 1 =>
    match cs with
    | '[' :: rest =>
      match depth with
      | 0 => none
      | depth + 1 => readElements fuel depth [] rest
    | '\x7b' :: rest =>
      match depth with
      | 0 => none
      | depth + 1 => readEntries fuel depth [] rest
    | '"' :: _ | '\'' :: _ => (readText cs).map fun (s, rest) => (.string s, rest)
    | _ => readWord cs

/-- The elements of an array from behind its bracket or a comma; those read come last first. -/
def readElements (fuel depth : Nat) (read : List Value) (cs : List Char) :
    Option (Value × List Char) :=
  match fuel with
  | 0 => none
  | fuel + 1 =>
    match skipTrivia false cs with
    | none => none
    | some (']' :: rest) => some (.array false read.reverse, rest)
    | some start =>
      match readValue fuel depth start with
      | none => none
      | some (v, rest) =>
        match skipTrivia false rest with
        | some (',' :: rest) => readElements fuel depth (v :: read) rest
        | some (']' :: rest) => some (.array false (v :: read).reverse, rest)
        | _ => none

/-- The entries of an inline table from behind its brace or a comma. -/
def readEntries (fuel depth : Nat) (read : Entries) (cs : List Char) :
    Option (Value × List Char) :=
  match fuel with
  | 0 => none
  | fuel + 1 =>
    match skipTrivia false cs with
    | none => none
    | some ('\x7d' :: rest) => some (.table .inline read, rest)
    | some start =>
      match readAssigned fuel depth start with
      | none => none
      | some (path, key, v, rest) =>
        match read.assign path key v .inline, skipTrivia false rest with
        | some read, some (',' :: rest) => readEntries fuel depth read rest
        | some read, some ('\x7d' :: rest) => some (.table .inline read, rest)
        | _, _ => none

/-- An entry of an inline table: a key and its value. Lines may end around the equals sign. -/
def readAssigned (fuel depth : Nat) (cs : List Char) :
    Option (List String × String × Value × List Char) :=
  match fuel with
  | 0 => none
  | fuel + 1 =>
    match readKey cs with
    | none => none
    | some (path, key, rest) =>
      match skipTrivia false rest with
      | some ('=' :: rest) =>
        match skipTrivia false rest with
        | none => none
        | some start =>
          (readValue fuel depth start).map fun (v, rest) => (path, key, v, rest)
      | _ => none

end

/-- A document as read so far: its entries, and the path of the table opened last. -/
structure Progress where
  entries : Entries
  current : List String

/-- A header of a table, from behind its bracket. -/
def readHeader (p : Progress) (cs : List Char) : Option (Progress × List Char) :=
  match readKey cs with
  | some (path, key, ']' :: rest) =>
    match p.entries.openTable path key, endLine false rest with
    | some entries, some rest => some (⟨entries, path ++ [key]⟩, rest)
    | _, _ => none
  | _ => none

/-- A header of an array of tables, from behind its brackets. -/
def readArrayHeader (p : Progress) (cs : List Char) : Option (Progress × List Char) :=
  match readKey cs with
  | some (path, key, ']' :: ']' :: rest) =>
    match p.entries.appendTable path key, endLine false rest with
    | some entries, some rest => some (⟨entries, path ++ [key]⟩, rest)
    | _, _ => none
  | _ => none

/-- An entry of the table opened last. -/
def readEntry (p : Progress) (cs : List Char) : Option (Progress × List Char) :=
  match readKey cs with
  | some (path, key, '=' :: rest) =>
    match readValue (rest.length + 1) maxDepth (skipLineBlanks rest) with
    | none => none
    | some (v, rest) =>
      let edit (kind : TableKind) (entries : Entries) := entries.assign path key v kind
      match p.entries.within false edit p.current .opened, endLine false rest with
      | some entries, some rest => some (⟨entries, p.current⟩, rest)
      | _, _ => none
  | _ => none

/-- The lines of a document, at most `fuel` of them. -/
def readLines (fuel : Nat) (p : Progress) (cs : List Char) : Option Entries :=
  match skipTrivia false cs with
  | none => none
  | some [] => some p.entries
  | some start =>
    match fuel with
    | 0 => none
    | fuel + 1 =>
      let line := match start with
        | '[' :: '[' :: rest => readArrayHeader p rest
        | '[' :: rest => readHeader p rest
        | _ => readEntry p start
      match line with
      | some (p, rest) => readLines fuel p rest
      | none => none

/-- The entries of a document; a byte order mark may stand in front. -/
def readDocument (text : String) : Option Entries :=
  let cs := match text.toList with
    | '\ufeff' :: cs => cs
    | cs => cs
  readLines cs.length ⟨[], []⟩ cs

end Dossier.Toml
