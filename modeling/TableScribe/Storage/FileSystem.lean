/-
File systems without links, and the ways that paths lead through them.
-/
import TableScribe.Storage.Error
import TableScribe.Storage.FileNode
import TableScribe.Storage.Path

namespace TableScribe

/-- A file system and the directory that relative paths start from. -/
structure FileSystem where
  root : FileNode
  current : List String

/-- A way from the root: the names gone through, innermost first, each with
what lies there, if anything does. -/
abbrev Trail := List (String × Option FileNode)

/-- The names of a trail from the root on. -/
def Trail.place (trail : Trail) : List String := (trail.map Prod.fst).reverse

namespace FileSystem

/-- What lies at the end of a trail. -/
def here (files : FileSystem) : Trail → Option FileNode
  | [] => some files.root
  | (_, node) :: _ => node

def isDirectory (files : FileSystem) (trail : Trail) : Bool :=
  match files.here trail with
  | some (.directory _) => true
  | _ => false

def put (files : FileSystem) (place : List String) (node : FileNode) : FileSystem :=
  { files with root := files.root.put place node }

/-- Whether a name is short enough to name a file. -/
def nameFits (name : String) : Bool := name.utf8ByteSize ≤ 255

/-- Whether a path is short enough to be followed. -/
def pathFits (path : String) : Bool := path.utf8ByteSize < 4096

/-- The trail one name further; one name less for `..`. -/
def step (files : FileSystem) (trail : Trail) (name : String) : Trail :=
  if name = ".." then trail.drop 1
  else (name, (files.here trail).bind fun node => node.child? name) :: trail

/-- The trail that paths of one form start with. -/
def start (files : FileSystem) (path : String) : Trail :=
  if Path.isAbsolute path then [] else files.current.foldl files.step []

/-- Fails unless a trail ends in a directory. -/
def enter (files : FileSystem) (trail : Trail) : Except FileError Unit :=
  match files.here trail with
  | some (.directory _) => .ok ()
  | some (.file _) => .error (.system .refused)
  | none => .error (.system .missing)

/-- Follows segments from the end of a trail.  A segment is followed only from
a directory. -/
def follow (files : FileSystem) : Trail → List String → Except FileError Trail
  | trail, [] => .ok trail
  | trail, segment :: rest => do
    files.enter trail
    if Path.isVoid segment then follow files trail rest
    else if !nameFits segment then .error (.system .refused)
    else follow files (files.step trail segment) rest

def hasNul (path : String) : Bool := path.toList.contains '\x00'

/-- Fails for a text that no path can be. -/
def checkPath (path : String) : Except FileError Unit :=
  if hasNul path then .error .nulInPath
  else if path.isEmpty then .error (.system .missing)
  else if !pathFits path then .error (.system .refused)
  else .ok ()

def locate (files : FileSystem) (path : String) : Except FileError Trail := do
  checkPath path
  files.follow (files.start path) (Path.segments path)

def read (files : FileSystem) (path : String) : Except FileError ByteArray := do
  let trail ← files.locate path
  match files.here trail with
  | some (.file content) => return content
  | some (.directory _) => .error (.system .refused)
  | none => .error (.system .missing)

def leadsToDirectory (files : FileSystem) (path : String) : Bool :=
  match files.locate path with
  | .ok trail => files.isDirectory trail
  | .error _ => false

/-- The way to a directory to be created, of which all but the last step has
to be there.  What `.`, `..` and the root name is there already. -/
def locateFree (files : FileSystem) (path : String) : Except FileError Trail := do
  checkPath path
  match (Path.trimmed path).reverse with
  | [] => .error (.system .taken)
  | name :: front =>
    let trail ← files.follow (files.start path) front.reverse
    files.enter trail
    let next := files.step trail name
    if name = "." ∨ name = ".." then .error (.system .taken)
    else if !nameFits name then .error (.system .refused)
    else if (files.here next).isSome then .error (.system .taken)
    else .ok next

/-- Creates a directory in a directory that is there. -/
def makeDirectory (files : FileSystem) (path : String) : FileSystem × Except FileError Unit :=
  match files.locateFree path with
  | .error error => (files, .error error)
  | .ok trail => (files.put trail.place .empty, .ok ())

/-- Writes a file into a directory that is there, over an older one. -/
def write (files : FileSystem) (path : String) (content : ByteArray) :
    FileSystem × Except FileError Unit :=
  match files.locate path with
  | .error error => (files, .error error)
  | .ok trail =>
    if files.isDirectory trail || !Path.endsInName path then
      (files, .error (.system .refused))
    else
      (files.put trail.place (.file content), .ok ())

end FileSystem

end TableScribe
