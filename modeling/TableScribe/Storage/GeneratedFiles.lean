/-
Generated files, not yet written.
-/
namespace TableScribe

/-- A file to be written below some directory. -/
structure GeneratedFile where
  /-- The path relative to that directory. -/
  path : String
  content : String
deriving DecidableEq, Repr

/-- Files in the order of their generation. -/
abbrev GeneratedFiles := List GeneratedFile

def GeneratedFiles.get? (files : GeneratedFiles) (path : String) : Option GeneratedFile :=
  files.find? fun file => file.path == path

end TableScribe
