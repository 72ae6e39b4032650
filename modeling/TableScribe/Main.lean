/-
The command line program: the only module that touches the outside world.
-/
import TableScribe.Command.Run

namespace TableScribe

/-- The reason of a failed operation, as far as it matters. -/
def systemError : IO.Error → SystemError
  | .noFileOrDirectory _ _ _ => .missing
  | .alreadyExists _ _ _ => .taken
  | _ => .refused

def attempt {α : Type} (action : IO α) : IO (Except FileError α) := do
  try
    let result ← action
    return .ok result
  catch error =>
    return .error (.system (systemError error))

def realDirectory (path : String) : IO Bool := do
  try
    let place ← IO.FS.realPath path
    place.isDir
  catch _ =>
    return false

def realDisk : Disk IO where
  read path := attempt (IO.FS.readBinFile path)
  write path content := attempt (IO.FS.writeBinFile path content)
  makeDirectory path := attempt (IO.FS.createDir path)
  isDirectory := realDirectory

def usageText : String :=
  "Usage: ormgen [-v] generate -i <INPUT> -o <OUTPUT> [--set <KEY=VALUE>]...\n"
    ++ "       ormgen [-v] check -i <INPUT>\n"
    ++ "       ormgen [-v] kinds\n"

end TableScribe

open TableScribe in
/-- Runs the program: 0 on success, 1 on failure, 2 for wrong arguments. -/
def main (arguments : List String) : IO UInt32 := do
  match Command.parse arguments with
  | .error .usage =>
    IO.eprint usageText
    return 2
  | .error .help =>
    IO.print usageText
    return 0
  | .error .version =>
    IO.println Command.versionLine
    return 0
  | .ok request =>
    let outcome ← Command.run realDisk request
    IO.print outcome.printed
    match outcome.failure with
    | none => return 0
    | some failure =>
      IO.eprintln ("Error: " ++ failure.message)
      return 1
