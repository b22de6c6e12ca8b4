import Dossier.FileSystem.Fault
import Dossier.FileSystem.Node
import Dossier.Path

/-!
# Following paths

A path is followed segment by segment from the top or from the working directory. Every segment asks
for a directory, `..` goes up, and a link goes on with the path that it holds. No more than forty
links are followed. What a path leads to is known by its canonical path, which has no links. What is
so far below it that its own path is too long can still be seen in a listing, but nothing more is
told of it.

A path may also lead to a place where there is nothing yet: a name that is missing in a directory
that is there.
-/

set_option autoImplicit false

namespace Dossier

/-- A directory tree with the path of names to the working directory. -/
structure FileSystem where
  top : Node := .emptyDirectory
  workingDirectory : List String := []
deriving Inhabited

/-- What a path leads to, with its canonical path. -/
structure Located where
  path : String
  node : Node
deriving Inhabited

/-- What each path leads to, at one moment. -/
abbrev Locator := String → Except Fault Located

/-- A node below the top, with the names and nodes that lead to it, innermost first. -/
structure Trail where
  top : Node
  below : List (String × Node) := []

/-- Where a path leads. -/
inductive Destination where
  | present (t : Trail)
  /-- A name that is missing in the directory at the end of the trail. -/
  | vacant (directory : Trail) (name : String)

/-- The most bytes of a path by which something can be used. -/
def longestPath : Nat := 4095

/-- The access to what has a path of so many bytes. -/
def Access.across (access : Access) (length : Nat) : Access :=
  if length ≤ longestPath then access
  else { access with facts := some .nameTooLong, contents := some .nameTooLong }

namespace Node

mutual

/-- A tree as it can be used at the end of a path of so many bytes. -/
def across (length : Nat) : Node → Node
  | .file access bytes => .file (access.across length) bytes
  | .directory access es => .directory (access.across length) (entriesAcross length es)
  | .link target => .link target

def entriesAcross (length : Nat) : List (FileName × Node) → List (FileName × Node)
  | [] => []
  | (name, n) :: rest => (name, n.across (length + 1 + name.size)) :: entriesAcross length rest

end

end Node

namespace Trail

/-- Where the trail ends. -/
def node (t : Trail) : Node := (t.below.head?).elim t.top Prod.snd

/-- One step back; the top is above itself. -/
def up (t : Trail) : Trail := { t with below := t.below.tail }

def push (t : Trail) (name : String) (n : Node) : Trail :=
  { t with below := (name, n) :: t.below }

def names (t : Trail) : List String := (t.below.map Prod.fst).reverse

/-- The end of the trail with its canonical path. -/
def located (t : Trail) : Located where
  path := "/" ++ "/".intercalate t.names
  -- The top adds nothing to the paths of what is in it.
  node := t.node.across (t.names.foldl (fun length name => length + 1 + name.utf8ByteSize) 0)

/--
The trail further along the segments. At a link, `jump` goes on from its directory with what is
ahead, the link itself left out.
-/
def descend (jump : Trail → String → List String → Except Fault Destination) (t : Trail) :
    List String → Except Fault Destination
  | [] => .ok (.present t)
  | segment :: rest =>
    match t.node with
    | .directory _ entries =>
      if segment = "" ∨ segment = "." then t.descend jump rest
      else if segment = ".." then t.up.descend jump rest
      else if 255 < segment.utf8ByteSize then .error .nameTooLong
      else
        match entries.lookup (.text segment) with
        | none => if rest.isEmpty then .ok (.vacant t segment) else .error .notFound
        | some (.link target) => jump t target rest
        | some n => (t.push segment n).descend jump rest
    | _ => .error .notDirectory

/-- Where a path starts: at the top, or at the end of the trail. -/
def start (t : Trail) (path : String) : Trail :=
  if path.toList.head? = some '/' then { t with below := [] } else t

/-- Where a path and then more segments lead, over at most `links` links. -/
def follow : Nat → Trail → String → List String → Except Fault Destination
  | 0, t, path, rest =>
    (t.start path).descend (fun _ _ _ => .error .tooManyLinks) (Path.segments path ++ rest)
  | links + 1, t, path, rest =>
    (t.start path).descend (follow links) (Path.segments path ++ rest)

end Trail

namespace FileSystem

/-- How many links a path may lead over. -/
def maxLinks : Nat := 40

def here (fs : FileSystem) : Trail :=
  let enter (t : Trail) (name : String) : Trail :=
    t.push name ((t.node.entries.lookup (.text name)).getD .emptyDirectory)
  fs.workingDirectory.foldl enter ⟨fs.top, []⟩

/-- Where a path from the working directory leads. -/
def destination (fs : FileSystem) (path : String) : Except Fault Destination :=
  if path.isEmpty then .error .notFound
  else if path.toList.contains '\x00' then .error .zeroCharacter
  else fs.here.follow maxLinks path []

def trail (fs : FileSystem) (path : String) : Except Fault Trail :=
  match fs.destination path with
  | .ok (.present t) => .ok t
  | .ok (.vacant ..) => .error .notFound
  | .error fault => .error fault

def locate (fs : FileSystem) : Locator := fun path => (fs.trail path).map Trail.located

end FileSystem

def Located.text (l : Located) : Except Fault String :=
  match l.node with
  | .file { contents := some fault, .. } _ => .error fault
  | .file _ bytes => ((String.fromUTF8? bytes).map Except.ok).getD (.error .notText)
  | _ => .error .isDirectory

end Dossier
