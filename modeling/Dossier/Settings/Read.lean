import Dossier.Settings.Validation
import Dossier.Toml.Document

/-!
# Reading settings

Settings are written as a TOML document with one table for each section. Every section and every key
may be missing, and unknown ones are ignored. A section may also be an array of its values in order,
and a moment counts as a section without any.
-/

set_option autoImplicit false

namespace Dossier.Settings

open Toml (Value)

/-- A text. -/
def readString : Value → Option String
  | .string s => some s
  | _ => none

/-- A truth value. -/
def readBool : Value → Option Bool
  | .boolean b => some b
  | _ => none

/-- A natural number below a bound. -/
def readNatBelow (bound : Nat) : Value → Option Nat
  | .integer n => if 0 ≤ n ∧ n < bound then some n.toNat else none
  | _ => none

/-- A natural number of 64 bits. -/
def readNat : Value → Option Nat := readNatBelow UInt64.size

/-- A natural number of 32 bits. -/
def readWord (v : Value) : Option UInt32 := (readNatBelow UInt32.size v).map Nat.toUInt32

/-- A number; an integer has to fit 64 bits, with or without a sign. -/
def readFloat : Value → Option Float
  | .float x => some x
  | .integer n =>
    if -((UInt64.size / 2 : Nat) : Int) ≤ n ∧ n < UInt64.size then
      some (Binary64.withSign (n < 0) (Binary64.ofDecimal n.natAbs 0))
    else none
  | _ => none

/-- A list of texts. -/
def readStrings : Value → Option (List String)
  | .array _ elements => elements.mapM readString
  | _ => none

/-- The values of a section for each of its keys, in order. -/
def valuesOf (keys : List String) : Value → Option (List (Option Value))
  | .table _ entries =>
    if entries.all fun (key, v) => keys.contains key || v.isValid then
      some (keys.map fun key => entries.lookup key)
    else none
  | .array _ elements => some ((List.range keys.length).map (elements[·]?))
  | .moment => some (keys.map fun _ => none)
  | _ => none

/-- A value where there is one, the default otherwise. -/
def orElse {α : Type} (default : α) (read : Value → Option α) : Option Value → Option α
  | none => some default
  | some v => read v

/-- The section on how a repository is read. -/
def readAnalyzer (v : Value) : Option AnalyzerSettings := do
  let d : AnalyzerSettings := {}
  match ← valuesOf ["root", "include", "exclude", "max_file_size", "chars_per_token",
      "entry_points", "core_modules", "analyze_dependencies"] v with
  | [root, incl, excl, size, ratio, entries, cores, follow] =>
    return {
      root := ← orElse d.root readString root
      includeGlobs := ← orElse d.includeGlobs readStrings incl
      excludeGlobs := ← orElse d.excludeGlobs readStrings excl
      maxFileSize := ← orElse d.maxFileSize readNat size
      charsPerToken := ← orElse d.charsPerToken readFloat ratio
      entryPoints := ← orElse d.entryPoints readStrings entries
      coreModules := ← orElse d.coreModules readStrings cores
      analyzeDependencies := ← orElse d.analyzeDependencies readBool follow }
  | _ => none

/-- The section on keeping snapshots. -/
def readCache (v : Value) : Option CacheSettings := do
  let d : CacheSettings := {}
  match ← valuesOf ["enabled", "ttl_secs"] v with
  | [enabled, ttl] =>
    return {
      enabled := ← orElse d.enabled readBool enabled
      ttlSeconds := ← orElse d.ttlSeconds readNat ttl }
  | _ => none

/-- The section on selections. -/
def readSelection (v : Value) : Option SelectionSettings := do
  let d : SelectionSettings := {}
  match ← valuesOf ["max_tokens", "strategy", "min_importance", "include_types", "include_tests",
      "lsp_boost_factor"] v with
  | [tokens, strategy, least, types, tests, boost] =>
    return {
      maxTokens := ← orElse d.maxTokens readWord tokens
      strategy := ← orElse d.strategy readString strategy
      minImportance := ← orElse d.minImportance readFloat least
      includeTypes := ← orElse d.includeTypes readBool types
      includeTests := ← orElse d.includeTests readBool tests
      boost := ← orElse d.boost readFloat boost }
  | _ => none

/-- The section on searches. -/
def readSearch (v : Value) : Option SearchSettings := do
  let d : SearchSettings := {}
  match ← valuesOf ["fuzzy", "max_distance", "search_content", "limit"] v with
  | [fuzzy, distance, content, limit] =>
    return {
      fuzzy := ← orElse d.fuzzy readBool fuzzy
      maxDistance := ← orElse d.maxDistance readNat distance
      searchContent := ← orElse d.searchContent readBool content
      limit := ← orElse d.limit readNat limit }
  | _ => none

/-- The section on logging. -/
def readLogging (v : Value) : Option LoggingSettings := do
  let d : LoggingSettings := {}
  match ← valuesOf ["level"] v with
  | [level] => return { level := ← orElse d.level readString level }
  | _ => none

/-- The settings in a document. -/
def ofEntries (entries : Toml.Entries) : Option Settings := do
  match ← valuesOf ["analyzer", "cache", "selection", "search", "logging"]
      (.table .opened entries) with
  | [analyzer, cache, selection, search, logging] =>
    return {
      analyzer := ← orElse {} readAnalyzer analyzer
      cache := ← orElse {} readCache cache
      selection := ← orElse {} readSelection selection
      search := ← orElse {} readSearch search
      logging := ← orElse {} readLogging logging }
  | _ => none

/-- The usable settings that a text describes. -/
def parse (text : String) : Except SettingsError Settings :=
  match (Toml.readDocument text).bind ofEntries with
  | none => .error .malformed
  | some s =>
    match s.validate with
    | .error u => .error (.unusable u)
    | .ok () => .ok s

end Dossier.Settings
