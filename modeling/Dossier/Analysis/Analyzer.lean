import Dossier.Classifier
import Dossier.Extract.Registry
import Dossier.Settings.Basic
import Dossier.TokenEstimator

/-!
# Analyzers

What decides which files of a repository become chunks, and what is found out about each of them.
-/

set_option autoImplicit false

namespace Dossier

/-- The rules by which a repository is read. -/
structure Analyzer where
  includeGlobs : List Glob
  excludeGlobs : List Glob
  classifier : Classifier
  registry : Registry := .standard
  estimator : TokenEstimator
  /-- The greatest size of a file in bytes. -/
  maxFileSize : Nat
  followsImports : Bool

namespace Analyzer

def ofSettings (s : AnalyzerSettings) : Analyzer where
  includeGlobs := s.includeGlobs.map Glob.ofString
  excludeGlobs := s.excludeGlobs.map Glob.ofString
  classifier := ⟨s.entryPoints.map Glob.ofString, s.coreModules.map Glob.ofString⟩
  estimator := .ofRatio s.charsPerToken
  maxFileSize := s.maxFileSize
  followsImports := s.analyzeDependencies

/-- Whether a file, or a directory with all below it, is kept out. -/
def excludes (a : Analyzer) (path : String) : Bool := anyAccepts a.excludeGlobs path

/-- Whether a file that is not kept out is asked for. -/
def includes (a : Analyzer) (path : String) : Bool := anyAccepts a.includeGlobs path

/-- The imports of a file as written; none when imports are not followed. -/
def importsOf (a : Analyzer) (path content : String) : List String :=
  if a.followsImports then (a.registry.forPath? path).elim [] (·.imports content) else []

/-- The ids that the imports of a file may refer to, its own left out. -/
def targetsOf (a : Analyzer) (path content : String) : List String :=
  match a.registry.forPath? path with
  | none => []
  | some l => ((a.importsOf path content).flatMap (l.resolve path)).filter (· != path)

/-- The chunk of a file, before its connections count. -/
def chunkOf (a : Analyzer) (path content : String) : Chunk :=
  let role := a.classifier.classify path content
  { id := path
    filePath := path
    content
    tokens := a.estimator.estimate content
    importance := baseImportance path role
    role
    symbols := (a.registry.forPath? path).elim [] (·.symbols content)
    dependencies := a.importsOf path content }

end Analyzer
end Dossier
