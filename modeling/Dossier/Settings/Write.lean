import Dossier.Binary64.Layout
import Dossier.Settings.Basic

/-!
# Writing settings

All settings as a TOML document: the sections in order with a blank line between them, one key to a
line, longer lists with one element to a line. A text is written in the plainest quotes that need
no escape, and in double quotes with escapes when there are none.
-/

set_option autoImplicit false

namespace Dossier.Settings

/-- The length of the longest run of a character. -/
def longestRun (c : Char) (cs : List Char) : Nat :=
  (cs.foldl (fun (longest, here) d =>
    let here := if d = c then here + 1 else 0
    (max longest here, here)) (0, 0)).1

/-- A control that only an escape can write. -/
def needsEscape (c : Char) : Bool :=
  c != '\t' && c != '\n' && (c.toNat < 32 || c.toNat == 127)

/-- A code point as four hexadecimal digits. -/
def fourHex (n : Nat) : List Char :=
  let ds := (Nat.toDigits 16 n).map Char.toUpper
  List.replicate (4 - ds.length) '0' ++ ds

/-- A character other than a quote between double quotes, which may span lines. -/
def escaped (lines : Bool) (c : Char) : List Char :=
  if c = '\\' then ['\\', '\\']
  else if c = '\x08' then ['\\', 'b']
  else if c = '\t' then ['\\', 't']
  else if c = '\n' then if lines then [c] else ['\\', 'n']
  else if c = '\x0c' then ['\\', 'f']
  else if c = '\r' then ['\\', 'r']
  else if needsEscape c then '\\' :: 'u' :: fourHex c.toNat
  else [c]

/--
The characters of a text between double quotes. A quote is escaped when more than `allowed` of them
would stand side by side; `run` counts those that do already.
-/
def escapedAll (lines : Bool) (allowed run : Nat) : List Char → List Char
  | [] => []
  | c :: cs =>
    if c = '"' then
      if allowed ≤ run then '\\' :: '"' :: escapedAll lines allowed 0 cs
      else '"' :: escapedAll lines allowed (run + 1) cs
    else escaped lines c ++ escapedAll lines allowed 0 cs

/-- Between double quotes, on one line. -/
def basic (cs : List Char) : List Char := '"' :: escapedAll false 0 0 cs ++ ['"']

/-- A break after the opening quotes of a text that has breaks itself. -/
def firstBreak (cs : List Char) : List Char := if cs.contains '\n' then ['\n'] else []

/-- Between tripled double quotes. -/
def basicLines (cs : List Char) : List Char :=
  ['"', '"', '"'] ++ firstBreak cs ++ escapedAll true 2 0 cs ++ ['"', '"', '"']

/-- Between single quotes. -/
def literal (cs : List Char) : List Char := '\'' :: cs ++ ['\'']

/-- Between tripled single quotes. -/
def literalLines (cs : List Char) : List Char :=
  ['\'', '\'', '\''] ++ firstBreak cs ++ cs ++ ['\'', '\'', '\'']

/-- A text in the plainest quotes. -/
def writeString (s : String) : String :=
  let cs := s.toList
  let controls := cs.any needsEscape
  let backslash := cs.contains '\\'
  let doubles := longestRun '"' cs
  let singles := longestRun '\'' cs
  let breaks := cs.contains '\n'
  String.ofList <|
    if !controls && !backslash && doubles == 0 && !breaks then basic cs
    else if !controls && singles == 0 && !breaks then literal cs
    else if !controls && !backslash && doubles ≤ 2 then basicLines cs
    else if !controls && singles ≤ 2 then literalLines cs
    else if breaks then basicLines cs
    else basic cs

def writeStrings : List String → String
  | [] => "[]"
  | [s] => "[" ++ writeString s ++ "]"
  | ss => "[\n" ++ String.join (ss.map fun s => "    " ++ writeString s ++ ",\n") ++ "]"

def writeBool (b : Bool) : String := if b then "true" else "false"

/-- A number that keeps its point. -/
def writeFloat (x : Float) : String := Binary64.Layout.typed.write x

/-- A section from its keys and written values. -/
def writeSection (name : String) (entries : List (String × String)) : String :=
  "[" ++ name ++ "]\n" ++ String.join (entries.map fun (key, v) => key ++ " = " ++ v ++ "\n")

def write (s : Settings) : String :=
  "\n".intercalate [
    writeSection "analyzer" [
      ("root", writeString s.analyzer.root),
      ("include", writeStrings s.analyzer.includeGlobs),
      ("exclude", writeStrings s.analyzer.excludeGlobs),
      ("max_file_size", toString s.analyzer.maxFileSize),
      ("chars_per_token", writeFloat s.analyzer.charsPerToken),
      ("entry_points", writeStrings s.analyzer.entryPoints),
      ("core_modules", writeStrings s.analyzer.coreModules),
      ("analyze_dependencies", writeBool s.analyzer.analyzeDependencies)],
    writeSection "cache" [
      ("enabled", writeBool s.cache.enabled),
      ("ttl_secs", toString s.cache.ttlSeconds)],
    writeSection "selection" [
      ("max_tokens", toString s.selection.maxTokens.toNat),
      ("strategy", writeString s.selection.strategy),
      ("min_importance", writeFloat s.selection.minImportance),
      ("include_types", writeBool s.selection.includeTypes),
      ("include_tests", writeBool s.selection.includeTests),
      ("lsp_boost_factor", writeFloat s.selection.boost)],
    writeSection "search" [
      ("fuzzy", writeBool s.search.fuzzy),
      ("max_distance", toString s.search.maxDistance),
      ("search_content", writeBool s.search.searchContent),
      ("limit", toString s.search.limit)],
    writeSection "logging" [("level", writeString s.logging.level)]]

end Dossier.Settings
