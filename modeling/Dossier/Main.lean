import Dossier.CommandLine.Run

/-!
# The program

Reads from the disk what the arguments lead to, and prints how the run ends. Directories that are
kept out are not entered, and files that cannot become chunks are not read.
-/

set_option autoImplicit false

namespace Dossier.Program

open CommandLine

/-- A fault as the system reports it. -/
def faultOf : IO.Error → Fault
  | .noFileOrDirectory .. => .notFound
  | .inappropriateType .. => .notDirectory
  | .permissionDenied .. => .denied
  | .invalidArgument _ 40 _ => .tooManyLinks
  | .invalidArgument _ 36 _ => .nameTooLong
  | e => .system (toString e)

/-- What an action on the disk gives, or the fault that the system reports. -/
def attempt {α : Type} (action : IO α) : IO (Except Fault α) :=
  return (← action.toBaseIO).mapError faultOf

/-- Which directories are entered, and which files of a size are read. -/
structure Interest where
  enters : String → Bool
  reads : String → Nat → Bool

/-- No interest in what a directory holds. -/
def Interest.none : Interest := ⟨fun _ => false, fun _ _ => false⟩

/-- What an analyzer is interested in. -/
def Interest.ofAnalyzer (a : Analyzer) : Interest where
  enters path := !a.excludes path
  reads path size := !a.excludes path && a.includes path && size ≤ a.maxFileSize

/-- The file on the disk at a path. -/
def readFile (path : String) : IO Node :=
  return match ← attempt (IO.FS.readBinFile path) with
    | .error fault => .file { contents := some fault } .empty
    | .ok bytes => .file {} bytes

/-- The directory on the disk at a path, which is `relative` to the root. -/
partial def readDirectory (interest : Interest) (relative path : String) : IO Node := do
  match ← attempt (do (← IO.FS.realPath path).readDir) with
  | .error fault => return .directory { contents := some fault } []
  | .ok listed =>
    let mut entries := []
    for entry in listed do
      let inner := Path.join relative entry.fileName
      match ← attempt entry.path.symlinkMetadata with
      | .error fault =>
        entries := (.text entry.fileName, .file { kind := some fault } .empty) :: entries
      | .ok data =>
        let there := entry.path.toString
        if data.type == .dir && interest.enters inner then
          entries := (.text entry.fileName, ← readDirectory interest inner there) :: entries
        else if data.type == .file && interest.reads inner data.byteSize.toNat then
          entries := (.text entry.fileName, ← readFile there) :: entries
    return .directory {} entries

/-- What a path leads to on the disk. -/
def locate (interest : Interest) (path : String) : IO (Except Fault Located) := do
  match ← attempt (IO.FS.realPath path) with
  | .error fault =>
    -- Opening tells why a path leads nowhere.
    match ← attempt (IO.FS.Handle.mk path .read) with
    | .error reason => return .error reason
    | .ok _ => return .error fault
  | .ok canonical =>
    let node ← match ← attempt canonical.metadata with
      | .error fault => pure (.file { facts := some fault } .empty)
      | .ok data =>
        if data.type == .dir then readDirectory interest "" canonical.toString
        else readFile canonical.toString
    return .ok ⟨canonical.toString, node⟩

/-- What the paths that an invocation names lead to. -/
def locateAll (i : Invocation) : IO (List (String × Except Fault Located)) := do
  let config ← locate .none i.configPath
  match i.settings config, i.command with
  | .error _, _ | .ok _, .config _ => return [(i.configPath, config)]
  | .ok s, _ =>
    let root ← locate (.ofAnalyzer (.ofSettings s.analyzer)) s.analyzer.root
    return [(i.configPath, config), (s.analyzer.root, root)]

end Dossier.Program

open Dossier CommandLine in
/-- Runs the program and gives its status. -/
def main (args : List String) : IO UInt32 := do
  let found ← match readInvocation args with
    | .error _ => pure []
    | .ok i => Program.locateAll i
  let now ← IO.monoNanosNow
  let outcome := run now (fun path => (found.lookup path).getD (.error .notFound)) args
  IO.print outcome.output.write
  match outcome.report with
  | none => pure ()
  | some report => IO.eprint report
  return outcome.status.toUInt32
