/-
What a generation that fails leaves behind.  Nothing is stored before all files
have been generated, so an error up to then leaves everything as it was.  Paths
are looked at only when their turn to be written comes: a refused one leaves the
files that come before it.
-/
import TableScribe.Proofs.Command.Validation
import TableScribe.Proofs.Entity.Paths
import TableScribe.Proofs.Storage.Confinement

namespace TableScribe.Command

variable {files after : FileSystem} {input output : String} {options : List (String × String)}
  {generated : GeneratedFiles}

namespace Escaping

/-- A project of two tables, the second with an alias that leads up. -/
def project : Project where
  name := "p"
  javaAlias := none
  enabled := true
  package := none
  dbmses := [⟨"d", none, true, "mysql", [
    ⟨"s", none, true, [⟨"a", none, true, [], []⟩, ⟨"b", some "../B", true, [], []⟩]⟩]⟩]

def text : String :=
  "\x7b\"name\":\"p\",\"dbmses\":[\x7b\"name\":\"d\",\"typeName\":\"mysql\",\"schemas\":"
    ++ "[\x7b\"name\":\"s\",\"tables\":[\x7b\"name\":\"a\"\x7d,"
    ++ "\x7b\"name\":\"b\",\"alias\":\"../B\"\x7d]\x7d]\x7d]\x7d"

theorem ofJson_text : Project.ofJson text = .ok project := by
  cbv

/-- The files with something in the output directory. -/
def filled (entries : List (String × FileNode)) (bytes : ByteArray) : FileSystem :=
  ⟨.directory [("out", .directory entries), ("p.json", .file bytes)], []⟩

/-- The directories of the package with files in them. -/
def package (entries : List (String × FileNode)) : List (String × FileNode) :=
  [("p", .directory [("s", .directory entries)])]

end Escaping

end TableScribe.Command
