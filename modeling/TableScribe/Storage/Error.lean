/-
Why a file is not read or written.
-/
namespace TableScribe

/-- Why the operating system does not carry out an operation. -/
inductive SystemError
  /-- What a path leads to, or something on the way, is not there. -/
  | missing
  /-- What is to be created is there already. -/
  | taken
  /-- Anything else. -/
  | refused
deriving DecidableEq, Repr

def SystemError.message : SystemError → String
  | missing => "no such file or directory"
  | taken => "the file exists already"
  | refused => "the operating system refused"

inductive FileError
  | system (reason : SystemError)
  /-- The content is not text. -/
  | notText
  /-- A path holds a NUL character. -/
  | nulInPath
  /-- A path to write to is not relative. -/
  | notRelative (path : String)
  /-- A path to write to has a component that is not a plain name. -/
  | notPlain (path : String)
deriving DecidableEq, Repr

def FileError.message : FileError → String
  | system reason => reason.message
  | notText => "stream did not contain valid UTF-8"
  | nulInPath => "file name contained an unexpected NUL byte"
  | notRelative path => "generated file path must be relative: " ++ path
  | notPlain path => "generated file path must be a normal relative path: " ++ path

end TableScribe
