import Dossier.Binary64.Layout
import Dossier.Json.Value

/-!
# Writing JSON

Values over several lines: one element or member to a line, two blanks deeper than what holds it.
-/

set_option autoImplicit false

namespace Dossier.Json

/-- A code point below 256 as two hexadecimal digits. -/
def twoHex (n : Nat) : List Char :=
  let ds := Nat.toDigits 16 n
  List.replicate (2 - ds.length) '0' ++ ds

/-- A character between the quotes. -/
def escapedChar (c : Char) : List Char :=
  if c = '"' then ['\\', '"']
  else if c = '\\' then ['\\', '\\']
  else if c = '\x08' then ['\\', 'b']
  else if c = '\t' then ['\\', 't']
  else if c = '\n' then ['\\', 'n']
  else if c = '\x0c' then ['\\', 'f']
  else if c = '\r' then ['\\', 'r']
  else if c.toNat < 32 then ['\\', 'u', '0', '0'] ++ twoHex c.toNat
  else [c]

/-- A text between quotes. -/
def writeString (s : String) : String :=
  String.ofList ('"' :: s.toList.flatMap escapedChar ++ ['"'])

/-- The start of a line at a depth. -/
def newLine (depth : Nat) : String := String.ofList ('\n' :: List.replicate (2 * depth) ' ')

/-- The written items of an array or object at a depth between brackets. -/
def enclose (opening closing : String) (depth : Nat) (items : List String) : String :=
  if items.isEmpty then opening ++ closing
  else
    opening ++ ",".intercalate (items.map (newLine (depth + 1) ++ ·)) ++ newLine depth ++ closing

mutual

/-- A value at a depth. -/
def writeAt (depth : Nat) : Json → String
  | .null => "null"
  | .natural n => toString n
  | .number x => Binary64.Layout.exchange.write x
  | .string s => writeString s
  | .array elements => enclose "[" "]" depth (writeElements (depth + 1) elements)
  | .object members => enclose "\x7b" "\x7d" depth (writeMembers (depth + 1) members)

/-- The elements of an array. -/
def writeElements (depth : Nat) : List Json → List String
  | [] => []
  | v :: rest => writeAt depth v :: writeElements depth rest

/-- The members of an object. -/
def writeMembers (depth : Nat) : List (String × Json) → List String
  | [] => []
  | (key, v) :: rest => (writeString key ++ ": " ++ writeAt depth v) :: writeMembers depth rest

end

/-- A value as a document. -/
def write (v : Json) : String := writeAt 0 v

end Dossier.Json
