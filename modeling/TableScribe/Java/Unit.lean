/-
Java views of compilation units and imports.
-/
import TableScribe.Java.Layout

namespace TableScribe.Java

def packageLine (package : String) : String := "package " ++ package ++ ";"

/-- Comment, package, imports and declarations, separated by blank lines;
what is empty is left out, and the file ends with a line feed. -/
def fileView : View := fun model => do
  let file ← ViewM.expect .file Node.file? model
  let comments ← (model.children .javadoc).mapM ViewM.render
  let imports ← ViewM.renderAll (model.children .imports) "\n"
  let declarations ← ViewM.renderAll (model.children .declarations) "\n\n"
  let sections := comments ++ file.package.toList.map packageLine ++ [imports, declarations]
  return ViewM.joinNonEmpty "\n\n" sections ++ "\n"

/-- `import a.b.C;` or `import static a.b.C.member;` -/
def importView : View := fun model => do
  let line ← ViewM.expect .importLine Node.importLine? model
  if line.path.isEmpty then
    throw (.invalidModel .importLine "import has no path")
  return (if line.isStatic then "import static " else "import ") ++ line.path ++ ";"

end TableScribe.Java
