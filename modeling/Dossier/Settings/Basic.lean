import Dossier.Search.Ranking
import Dossier.Selection.Select

/-!
# Settings

What can be set once for all requests, in five sections, with the values used when nothing is said.
-/

set_option autoImplicit false

namespace Dossier

/-- How a repository is read. -/
structure AnalyzerSettings where
  root : String := "."
  /-- Globs of which a file has to match one. -/
  includeGlobs : List String :=
    ["**/*.ts", "**/*.tsx", "**/*.js", "**/*.jsx", "**/*.mjs", "**/*.cjs", "**/*.py", "**/*.rs",
      "**/*.go", "**/*.java", "**/*.md", "**/*.json"]
  /-- Globs that keep a file, or a directory with all below it, out. -/
  excludeGlobs : List String :=
    ["**/node_modules/**", "**/.git/**", "**/dist/**", "**/build/**", "**/target/**",
      "**/coverage/**", "**/*.min.js", "**/package-lock.json"]
  /-- The greatest size of a file in bytes. -/
  maxFileSize : Nat := 102400
  charsPerToken : Float := 4.0
  entryPoints : List String :=
    ["**/index.ts", "**/index.js", "**/main.ts", "**/main.js", "**/app.ts", "**/app.js",
      "**/server.ts", "**/cli.ts", "**/main.py", "**/__main__.py", "**/main.rs", "**/lib.rs"]
  coreModules : List String := ["**/core/**", "**/services/**", "**/modules/**"]
  /-- Whether imports are followed. -/
  analyzeDependencies : Bool := true

/-- Whether and how long snapshots are kept. -/
structure CacheSettings where
  enabled : Bool := true
  ttlSeconds : Nat := 300

/-- What a selection request leaves open. -/
structure SelectionSettings where
  maxTokens : UInt32 := 8000
  strategy : String := "importance_first"
  minImportance : Float := 0.0
  includeTypes : Bool := true
  includeTests : Bool := false
  boost : Float := 0.3

/-- What a search leaves open. -/
structure SearchSettings where
  fuzzy : Bool := false
  maxDistance : Nat := 2
  searchContent : Bool := false
  limit : Nat := 20

/-- How much is logged. -/
structure LoggingSettings where
  level : String := "info"

/-- All settings. -/
structure Settings where
  analyzer : AnalyzerSettings := {}
  cache : CacheSettings := {}
  selection : SelectionSettings := {}
  search : SearchSettings := {}
  logging : LoggingSettings := {}

/-- The request that the settings make; an unknown strategy counts as the first. -/
def SelectionSettings.request (s : SelectionSettings) : SelectionRequest where
  maxTokens := s.maxTokens
  minImportance := s.minImportance
  includeTypes := s.includeTypes
  includeTests := s.includeTests
  strategy := (Strategy.ofName s.strategy).toOption.getD .importanceFirst

/-- The search options that the settings make. -/
def SearchSettings.options (s : SearchSettings) : SearchOptions where
  content := s.searchContent
  fuzzy := s.fuzzy
  maxDistance := s.maxDistance
  limit := some s.limit

end Dossier
