/-
File operations of any provider, be it a file system held in memory or a real
one, and the writing of generated files with them.
-/
import TableScribe.Storage.FileSystem
import TableScribe.Storage.GeneratedFiles

namespace TableScribe

/-- The file operations a command needs. -/
structure Disk (m : Type → Type) where
  read : String → m (Except FileError ByteArray)
  write : String → ByteArray → m (Except FileError Unit)
  /-- Creates a directory in a directory that is there. -/
  makeDirectory : String → m (Except FileError Unit)
  isDirectory : String → m Bool

def FileSystem.disk : Disk (StateM FileSystem) where
  read path := fun files => (files.read path, files)
  write path content := fun files => (files.write path content).swap
  makeDirectory path := fun files => (files.makeDirectory path).swap
  isDirectory path := fun files => (files.leadsToDirectory path, files)

namespace Disk

variable {m : Type → Type} [Monad m]

/-- Goes on after an attempt to create a directory; its failure does not
matter if the directory is there. -/
def settle (disk : Disk m) (path : String) : Except FileError Unit → ExceptT FileError m Unit
  | .ok () => pure ()
  | .error error => do
    if ← disk.isDirectory path then pure () else throw error

/-- Creates the first of some directories, each of which lies in the next one.
The others are created only if it turns out that something is missing. -/
def createFrom (disk : Disk m) : List String → ExceptT FileError m Unit
  | [] => pure ()
  | path :: rest => do
    match ← ExceptT.lift (disk.makeDirectory path) with
    | .error (.system .missing) =>
      createFrom disk rest
      let result ← ExceptT.lift (disk.makeDirectory path)
      disk.settle path result
    | result => disk.settle path result

/-- Creates a directory and the directories above it. -/
def createDirectories (disk : Disk m) (path : String) : ExceptT FileError m Unit :=
  if path.isEmpty then pure () else disk.createFrom (path :: Path.above path)

end Disk

namespace GeneratedFile

/-- Whether a generated path may be written to; any other could lead out of
the output directory. -/
def checkPath (path : String) : Except FileError Unit :=
  if Path.isAbsolute path then .error (.notRelative path)
  else if !Path.isPlain path then .error (.notPlain path)
  else .ok ()

def writeTo {m : Type → Type} [Monad m] (disk : Disk m) (directory : String)
    (file : GeneratedFile) : ExceptT FileError m Unit := do
  liftExcept (checkPath file.path)
  let path := Path.join directory file.path
  disk.createDirectories (Path.parent path)
  ExceptT.mk (disk.write path file.content.toUTF8)
where
  /-- A result without effects. -/
  liftExcept (result : Except FileError Unit) : ExceptT FileError m Unit :=
    ExceptT.mk (pure result)

end GeneratedFile

/-- Writes files below a directory, up to the first failure. -/
def GeneratedFiles.writeTo {m : Type → Type} [Monad m] (disk : Disk m) (directory : String) :
    GeneratedFiles → ExceptT FileError m Unit
  | [] => pure ()
  | file :: rest => do
    file.writeTo disk directory
    writeTo disk directory rest

end TableScribe
