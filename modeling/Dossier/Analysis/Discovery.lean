import Dossier.Analysis.Analyzer
import Dossier.FileSystem.Node
import Dossier.Path

/-!
# Discovering files

The files of a tree that become chunks, found by one walk. The walk keeps the directories that are
still to be read, and reads the first of them: its entries are gone through in the order of their
names, what is kept out is passed over, files that are asked for are found, and the directories in
it come before those that were pending. Links are passed over, and so are entries whose names are no
text or whose kind cannot be told. A directory that cannot be listed ends the walk. Of the files
found, those count that can be read, are not too large and hold text.
-/

set_option autoImplicit false

namespace Dossier

/-- Why a repository could not be analyzed. -/
inductive AnalysisError where
  /-- The path leads nowhere, or nothing is told of what it leads to. -/
  | root (path : String) (fault : Fault)
  /-- What is at the canonical path is no directory. -/
  | notDirectory (path : String)
  /-- A directory that is not kept out cannot be listed. -/
  | walk (path : String) (fault : Fault)
deriving DecidableEq, Repr

/-- The report of an error, and then of the errors that caused it. -/
def AnalysisError.reports : AnalysisError → List String
  | .root path fault =>
    ["repository root " ++ path ++ " is not accessible: " ++ fault.message, fault.message]
  | .notDirectory path => ["repository root " ++ path ++ " is not a directory"]
  | .walk path fault =>
    ["failed to read directory " ++ path ++ ": " ++ fault.message, fault.message]

def AnalysisError.message (e : AnalysisError) : String := (e.reports.head?).getD ""

structure FoundFile where
  path : String
  access : Access
  bytes : ByteArray

structure SourceFile where
  path : String
  content : String
deriving DecidableEq, Repr

/-- A directory that is still to be read, by its path from the root. -/
structure PendingDirectory where
  path : String
  access : Access
  entries : List (FileName × Node)

/-- How much there is still to be walked in a directory: itself, and all nodes below it. -/
def PendingDirectory.weight (d : PendingDirectory) : Nat := 1 + Node.totalSize d.entries

def totalWeight : List PendingDirectory → Nat
  | [] => 0
  | d :: pending => d.weight + totalWeight pending

theorem totalWeight_append (ds es : List PendingDirectory) :
    totalWeight (ds ++ es) = totalWeight ds + totalWeight es := by
  induction ds with
  | nil => exact (Nat.zero_add _).symm
  | cons d ds ih => simp only [List.cons_append, totalWeight, ih, Nat.add_assoc]

namespace Analyzer

/-- The entries of a directory that are not kept out, by path, in the order of their names. -/
def keptIn (a : Analyzer) (d : PendingDirectory) : List (String × Node) :=
  ((Node.textEntries d.entries).map fun (name, n) => (Path.join d.path name, n)).filter
    fun (path, _) => !a.excludes path

/-- The file at a path, if it can be told that there is one, and it is asked for. -/
def fileAt? (a : Analyzer) : String × Node → Option FoundFile
  | (path, .file access bytes) =>
    if access.kind.isNone && a.includes path then some ⟨path, access, bytes⟩ else none
  | _ => none

/-- The directory at a path, if it can be told that there is one. -/
def directoryAt? : String × Node → Option PendingDirectory
  | (path, .directory access entries) =>
    if access.kind.isNone then some ⟨path, access, entries⟩ else none
  | _ => none

theorem totalWeight_le (es : List (String × Node)) :
    totalWeight (es.filterMap directoryAt?) ≤ Node.totalSize es := by
  induction es with
  | nil => exact Nat.le_refl _
  | cons e es ih =>
    obtain ⟨path, n⟩ := e
    cases n with
    | file | link =>
      simp only [List.filterMap_cons, directoryAt?, Node.totalSize_cons]
      omega
    | directory access inner =>
      have hsize : (Node.directory access inner).size = 1 + Node.totalSize inner := by
        rw [Node.size, Node.sizeOfEntries_eq]
      cases hkind : access.kind.isNone with
      | true =>
        simp only [List.filterMap_cons, directoryAt?, hkind, if_true, totalWeight,
          PendingDirectory.weight, Node.totalSize_cons, hsize]
        omega
      | false =>
        simp only [List.filterMap_cons, directoryAt?, hkind, Bool.false_eq_true, if_false,
          Node.totalSize_cons]
        omega

/-- The directories in a directory hold less than it does. -/
theorem totalWeight_lt (a : Analyzer) (d : PendingDirectory) :
    totalWeight ((a.keptIn d).filterMap directoryAt?) < d.weight := by
  have hkept : Node.totalSize (a.keptIn d) ≤ Node.totalSize d.entries := by
    refine Nat.le_trans (Node.totalSize_filter_le _ _) ?_
    rw [Node.totalSize_map_name]
    exact Node.totalSize_textEntries_le _
  have hsum := totalWeight_le (a.keptIn d)
  simp only [PendingDirectory.weight]
  omega

/-- The files found in the directories that are still to be read, and below them. -/
def discover (a : Analyzer) (root : String) :
    List PendingDirectory → Except AnalysisError (List FoundFile)
  | [] => .ok []
  | d :: pending =>
    match d.access.contents with
    | some fault => .error (.walk (Path.below root d.path) fault)
    | none =>
      -- Depth first: what is in this directory comes before what was pending.
      (a.discover root ((a.keptIn d).filterMap directoryAt? ++ pending)).map
        ((a.keptIn d).filterMap a.fileAt? ++ ·)
termination_by pending => totalWeight pending
decreasing_by
  have hlt := a.totalWeight_lt d
  simp only [totalWeight_append, totalWeight]
  omega

/-- A file that was found with its content, if it counts. -/
def read? (a : Analyzer) (f : FoundFile) : Option SourceFile :=
  if f.access.facts.isSome then none
  else if a.maxFileSize < f.bytes.size then none
  else if f.access.contents.isSome then none
  else (String.fromUTF8? f.bytes).map fun content => ⟨f.path, content⟩

/-- The files that count in a repository with these entries. -/
def filesIn (a : Analyzer) (root : String) (access : Access) (entries : List (FileName × Node)) :
    Except AnalysisError (List SourceFile) :=
  (a.discover root [⟨"", access, entries⟩]).map (·.filterMap a.read?)

end Analyzer
end Dossier
