import Dossier.Binary64.Layout
import Dossier.Settings.Basic

/-!
# Usable settings

Settings are checked in a fixed order, and the first value that is not usable is reported.
-/

set_option autoImplicit false

namespace Dossier

/-- A value that is not usable. -/
inductive Unusable where
  | emptyRoot
  | noInclude
  | zeroFileSize
  | charsPerToken (x : Float)
  | zeroTtl
  | strategy (s : String)
  | minImportance (x : Float)
  | boost (x : Float)
  | zeroLimit
  | logLevel (s : String)

/-- The levels of logging. -/
def logLevels : List String := ["error", "warn", "info", "debug", "trace"]

/-- The report of a value that is not usable. -/
def Unusable.message : Unusable → String
  | .emptyRoot => "analyzer.root must not be empty"
  | .noInclude => "analyzer.include must list at least one pattern"
  | .zeroFileSize => "analyzer.max_file_size must be non-zero"
  | .charsPerToken x =>
    "analyzer.chars_per_token must be positive, got " ++ Binary64.Layout.plain.write x
  | .zeroTtl => "cache.ttl_secs must be non-zero when the cache is enabled"
  | .strategy s =>
    "selection.strategy must be one of " ++ Text.quotedList (Strategy.all.map Strategy.name)
      ++ ", got " ++ Text.quoted s
  | .minImportance x =>
    "selection.min_importance must be in [0.0, 1.0], got " ++ Binary64.Layout.plain.write x
  | .boost x =>
    "selection.lsp_boost_factor must be in [0.0, 1.0], got " ++ Binary64.Layout.plain.write x
  | .zeroLimit => "search.limit must be at least 1"
  | .logLevel s =>
    "logging.level must be one of " ++ Text.quotedList logLevels ++ ", got " ++ Text.quoted s

/-- Whether a number lies in `[0, 1]`. -/
def isUnit (x : Float) : Bool := 0.0 ≤ x && x ≤ 1.0

namespace Settings

/-- The values that are not usable, in the order in which they are checked. -/
def unusables (s : Settings) : List Unusable :=
  let refuse (holds : Bool) (u : Unusable) : List Unusable := if holds then [u] else []
  refuse s.analyzer.root.isEmpty .emptyRoot
    ++ refuse s.analyzer.includeGlobs.isEmpty .noInclude
    ++ refuse (s.analyzer.maxFileSize == 0) .zeroFileSize
    ++ refuse (!(s.analyzer.charsPerToken.isFinite && 0.0 < s.analyzer.charsPerToken))
      (.charsPerToken s.analyzer.charsPerToken)
    ++ refuse (s.cache.enabled && s.cache.ttlSeconds == 0) .zeroTtl
    ++ refuse (!(Strategy.all.map Strategy.name).contains s.selection.strategy)
      (.strategy s.selection.strategy)
    ++ refuse (!isUnit s.selection.minImportance) (.minImportance s.selection.minImportance)
    ++ refuse (!isUnit s.selection.boost) (.boost s.selection.boost)
    ++ refuse (s.search.limit == 0) .zeroLimit
    ++ refuse (!logLevels.contains s.logging.level) (.logLevel s.logging.level)

/-- The first value that is not usable, if there is one. -/
def validate (s : Settings) : Except Unusable Unit :=
  match s.unusables with
  | [] => .ok ()
  | u :: _ => .error u

end Settings

/-- Why settings could not be had. -/
inductive SettingsError where
  /-- The file could not be read, for the reason given. -/
  | unreadable (reason : String)
  /-- The file is no document of the format, or a value has the wrong type. -/
  | malformed
  | unusable (u : Unusable)

/-- What is wrong with a document that cannot be read. -/
def malformedReason : String := "the document does not describe settings"

/-- The report of an error, and then of the errors that caused it. -/
def SettingsError.reports : SettingsError → List String
  | .unreadable reason => ["failed to read config file: " ++ reason, reason]
  | .malformed => ["failed to parse TOML: " ++ malformedReason, malformedReason]
  | .unusable u => ["validation error: " ++ u.message]

/-- The report of an error. -/
def SettingsError.message (e : SettingsError) : String := (e.reports.head?).getD ""

end Dossier
