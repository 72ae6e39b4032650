/-
Import lines and compilation units.
-/
import TableScribe.Model.Declaration

namespace TableScribe

structure Import where
  /-- The qualified path, such as `java.util.List`. -/
  path : String
  isStatic : Bool
deriving DecidableEq, Repr, Inhabited

namespace Import

def ofType (type : TypeRef) : Import := ⟨type.name, false⟩

/-- Whether one import comes before another or is equal to it: by path, and
of one path the plain import before the static one. -/
def atMost (a b : Import) : Bool :=
  decide (a.path < b.path) || (a.path == b.path && (!a.isStatic || b.isStatic))

def sort (imports : List Import) : List Import :=
  imports.mergeSort atMost

end Import

structure File where
  /-- The file name without extension. -/
  name : String
  package : Option String
  /-- The comment at the top. -/
  javadoc : Option Javadoc
  imports : List Import
  declarations : List Declaration
deriving BEq, Inhabited

namespace File

/-- The directory of a package: its dots are slashes. -/
def packageDirectory (package : String) : String :=
  String.ofList (package.toList.map fun c => if c = '.' then '/' else c)

/-- The relative path of the file, such as `com/example/User.java`. -/
def path (file : File) (extension : String) : String :=
  let fileName := file.name ++ "." ++ extension
  match file.package with
  | some package => packageDirectory package ++ "/" ++ fileName
  | none => fileName

end File

end TableScribe
